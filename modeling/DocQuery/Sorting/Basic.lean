import DocQuery.Sorting.Run

/-!
# Sorting

Stable sorting by any test of what is less. The shortest lists are sorted by
insertion. Longer ones are divided into runs, and what is not sorted when it is
merged is divided at a pivot, until the parts are short. The pivot is a median
of medians. Parts that do not get shorter in time are sorted by their runs.

There may be no result, as a merge gives up where the test shows itself to be no
order. A list of twenty elements or fewer is always sorted.

## Main definitions

* `pivot?`: The element at which a list is divided.
* `divide`: A list divided at an element.
* `sortDivided`: Sort a list by dividing it.
* `sortBy`: Sort a list.

## Theorems

* `perm_sortDivided`, `perm_sortBy`: Nothing is lost or added.
* `isSome_sortBy_of_length_le`: A short list is always sorted.
-/

namespace DocQuery

namespace Sorting

variable {α : Type}

/-- The median of three elements with their places. -/
def median (less : α → α → Bool) (a b c : α × Nat) : α × Nat :=
  if less a.1 b.1 = less a.1 c.1 then
    if less b.1 c.1 = less a.1 b.1 then b else c
  else a

/-- A median of medians of some elements with their places, taken from three
    parts of the elements so many times at most. -/
def medianIn (less : α → α → Bool) : Nat → List (α × Nat) → Option (α × Nat)
  | 0, xs => xs.head?
  | times + 1, xs =>
    let size := xs.length / 8
    if size = 0 then xs.head?
    else do
      let a ← medianIn less times (xs.take size)
      let b ← medianIn less times ((xs.drop (4 * size)).take size)
      let c ← medianIn less times ((xs.drop (7 * size)).take size)
      some (median less a b c)

/-- The place of the element at which a list is divided. -/
def pivotPlace (less : α → α → Bool) (xs : List α) : Nat :=
  ((medianIn less xs.length xs.zipIdx).map Prod.snd).getD 0

/-- A list divided at the element at a place: the elements that go left and the
    others. The element itself goes left or not, whatever the test says. -/
def divide (goesLeft : α → Bool) (pivotLeft : Bool) (place : Nat) (xs : List α) :
    List α × List α :=
  let marked := xs.zipIdx.map fun p => (p.1, if p.2 = place then pivotLeft else goesLeft p.1)
  ((marked.filter Prod.snd).map Prod.fst, (marked.filter fun p => !p.2).map Prod.fst)

/-- Sort a list by dividing it so many times at most. No element is less than
    `floor`, if that is given. -/
def sortDivided (less : α → α → Bool) : Nat → Option α → List α → Option (List α)
  | 0, _, xs =>
    if xs.length ≤ shortLength then sortShort less xs else sortRuns less (sortShort less) true xs
  | times + 1, floor, xs =>
    if xs.length ≤ shortLength then sortShort less xs
    else
      let place := pivotPlace less xs
      match xs[place]? with
      | none => sortShort less xs
      | some pivot =>
        let (low, high) := divide (fun x => less x pivot) false place xs
        if floor.any (fun f => !less f pivot) || low.isEmpty then
          -- Nothing is less than the pivot, so what is equal to it comes first.
          let (equal, greater) := divide (fun x => !less pivot x) true place xs
          (sortDivided less times none greater).map (equal ++ ·)
        else do
          let lower ← sortDivided less times floor low
          let upper ← sortDivided less times (some pivot) high
          return lower ++ upper

/-- Sort a list by dividing it, but not too often. -/
def sortLong (less : α → α → Bool) (xs : List α) : Option (List α) :=
  sortDivided less (2 * Nat.log2 (xs.length ||| 1)) none xs

/-- Sort a list. Elements of which none is less keep their order. -/
def sortBy (less : α → α → Bool) (xs : List α) : Option (List α) :=
  if xs.length ≤ 20 then some (insertionSort less xs)
  else sortRuns less (sortLong less) (xs.length ≤ 2 * shortLength) xs

theorem perm_divide (goesLeft : α → Bool) (pivotLeft : Bool) (place : Nat) (xs : List α) :
    ((divide goesLeft pivotLeft place xs).1 ++ (divide goesLeft pivotLeft place xs).2).Perm xs := by
  have h : (xs.zipIdx.map fun p =>
      (p.1, if p.2 = place then pivotLeft else goesLeft p.1)).map Prod.fst = xs := by
    rw [List.map_map]
    exact List.zipIdx_map_fst 0 xs
  simp only [divide]
  rw [← List.map_append]
  refine ((List.filter_append_perm Prod.snd _).map Prod.fst).trans ?_
  rw [h]

theorem perm_sortDivided (less : α → α → Bool) (times : Nat) (floor : Option α) :
    Permutes (sortDivided less times floor) := by
  intro xs ys h
  induction times generalizing floor xs ys with
  | zero =>
      rw [sortDivided] at h
      split at h
      · exact perm_sortShort less h
      · exact permutes_sortRuns (fun _ _ => perm_sortShort less) true xs ys h
  | succ times ih =>
      rw [sortDivided] at h
      split at h
      · exact perm_sortShort less h
      · simp only at h
        split at h
        · exact perm_sortShort less h
        · split at h
          · rcases Option.map_eq_some_iff.mp h with ⟨greater, hgreater, rfl⟩
            exact ((ih _ _ _ hgreater).append_left _).trans (perm_divide _ _ _ xs)
          · simp only [Option.bind_eq_bind, Option.bind_eq_some_iff, Option.pure_def] at h
            rcases h with ⟨lower, hlower, upper, hupper, heq⟩
            rw [← Option.some.inj heq]
            exact ((ih _ _ _ hlower).append (ih _ _ _ hupper)).trans (perm_divide _ _ _ xs)

theorem perm_sortLong (less : α → α → Bool) : Permutes (sortLong less) :=
  fun xs => perm_sortDivided less _ none xs

theorem perm_sortBy (less : α → α → Bool) : Permutes (sortBy less) := by
  intro xs ys h
  rw [sortBy] at h
  split at h
  · rw [← Option.some.inj h]
    exact perm_insertionSort less xs
  · exact permutes_sortRuns (perm_sortLong less) _ xs ys h

/-- A list of twenty elements or fewer is sorted, whatever the test says. -/
theorem isSome_sortBy_of_length_le (less : α → α → Bool) {xs : List α} (h : xs.length ≤ 20) :
    (sortBy less xs).isSome = true := by
  rw [sortBy, if_pos h]
  rfl

end Sorting

end DocQuery
