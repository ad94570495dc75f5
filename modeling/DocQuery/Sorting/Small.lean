import DocQuery.Sorting.Insertion
import DocQuery.Sorting.Merging

/-!
# Sorting Short Lists

Sorting a list in two halves, each of which is sorted by insertion. From eight
elements on each half begins with four that are sorted by five comparisons. The
halves are merged from both ends, so the sort may give up.

## Main definitions

* `sortFour`: Sort four elements.
* `sortShort`: Sort a list in two halves.

## Theorems

* `perm_sortFour`, `perm_sortShort`: Nothing is lost or added.
-/

namespace DocQuery

namespace Sorting

variable {α : Type}

/-- Two elements in order. -/
def sortTwo (less : α → α → Bool) (a b : α) : List α :=
  if less b a then [b, a] else [a, b]

/-- Sort four elements, of which the first two and the last two are in
    order. -/
def sortPairs (less : α → α → Bool) (a b c d : α) : List α :=
  -- The first elements of the pairs give the least of all, the last ones the greatest.
  match less c a, less d b with
  | false, false => a :: sortTwo less b c ++ [d]
  | false, true => a :: sortTwo less c d ++ [b]
  | true, false => c :: sortTwo less a b ++ [d]
  | true, true => c :: sortTwo less a d ++ [b]

/-- Sort four elements. -/
def sortFour (less : α → α → Bool) (a b c d : α) : List α :=
  match less b a, less d c with
  | false, false => sortPairs less a b c d
  | false, true => sortPairs less a b d c
  | true, false => sortPairs less b a c d
  | true, true => sortPairs less b a d c

/-- Sort one half of a list, with four elements first or not. -/
def sortHalf (less : α → α → Bool) : Bool → List α → List α
  | true, a :: b :: c :: d :: xs => extendSorted less (sortFour less a b c d) xs
  | _, xs => insertionSort less xs

/-- Sort a list in two halves. -/
def sortShort (less : α → α → Bool) (xs : List α) : Option (List α) :=
  if xs.length < 2 then some xs
  else
    let four : Bool := 8 ≤ xs.length
    mergeHalves less (sortHalf less four (xs.take (xs.length / 2)))
      (sortHalf less four (xs.drop (xs.length / 2)))

theorem perm_sortTwo (less : α → α → Bool) (a b : α) : (sortTwo less a b).Perm [a, b] := by
  rw [sortTwo]
  split
  · exact .swap a b []
  · exact .refl _

theorem perm_sortPairs (less : α → α → Bool) (a b c d : α) :
    (sortPairs less a b c d).Perm [a, b, c, d] := by
  rw [sortPairs]
  split
  · exact ((perm_sortTwo less b c).append_right [d]).cons a
  · refine (((perm_sortTwo less c d).append_right [b]).cons a).trans (List.Perm.cons a ?_)
    exact (List.perm_append_singleton b [c, d])
  · refine (((perm_sortTwo less a b).append_right [d]).cons c).trans ?_
    have h : ([a, b] ++ c :: [d]).Perm (c :: ([a, b] ++ [d])) := List.perm_middle
    exact h.symm
  · refine (((perm_sortTwo less a d).append_right [b]).cons c).trans ?_
    have h : ([a, b] ++ c :: [d]).Perm (c :: ([a, b] ++ [d])) := List.perm_middle
    exact (((List.Perm.swap b d []).cons a).cons c).trans h.symm

theorem perm_sortFour (less : α → α → Bool) (a b c d : α) :
    (sortFour less a b c d).Perm [a, b, c, d] := by
  rw [sortFour]
  split
  · exact perm_sortPairs less a b c d
  · exact (perm_sortPairs less a b d c).trans (((List.Perm.swap c d []).cons b).cons a)
  · exact (perm_sortPairs less b a c d).trans (.swap a b [c, d])
  · exact (perm_sortPairs less b a d c).trans
      ((List.Perm.swap a b [d, c]).trans (((List.Perm.swap c d []).cons b).cons a))

theorem perm_sortHalf (less : α → α → Bool) (four : Bool) (xs : List α) :
    (sortHalf less four xs).Perm xs := by
  fun_cases sortHalf less four xs with
  | case1 a b c d xs =>
      exact (perm_extendSorted less _ xs).trans ((perm_sortFour less a b c d).append_right xs)
  | case2 => exact perm_insertionSort less xs

theorem perm_sortShort (less : α → α → Bool) {xs ys : List α} (h : sortShort less xs = some ys) :
    ys.Perm xs := by
  rw [sortShort] at h
  split at h
  · rw [← Option.some.inj h]
  · refine (perm_mergeHalves less h).trans ?_
    refine ((perm_sortHalf less _ _).append (perm_sortHalf less _ _)).trans ?_
    rw [List.take_append_drop]

end Sorting

end DocQuery
