import DocQuery.Sorting.Basic
import Mathlib.Data.List.Basic
import Mathlib.Tactic.Common

/-!
# Sorting Images

Sorting looks at elements through its test and in no other way. So to sort the
images of some elements is to sort the elements by what the test says of their
images, and this holds for every test, be it an order or not.

It is proved step by step along the sorting: each part of it commutes with
taking images.

Nothing is asked of the test. An order would make most of the statements here
follow from what sorting means, but then nothing could be said of a sort whose
test is none, and those sorts are the ones that may give up. So the definitions
are gone through one by one, and the images are kept apart from the elements
until the test is reached.

A sort that takes another sort as an argument commutes with images if that one
does. `Lifts` is that property, and the lemmas about runs take it as a
hypothesis, so that they hold of short lists and of long ones alike. The result
of a sort is an option, and `Option.map` says of both sides at once that they
have a result or have none.

Two uses are made of it. Elements can be paired with their places, or with a
proof of where they are, and then sorted without either (`Prod.fst` and
`Subtype.val`). And the elements of two lists can be marked with the list they
are of, which keeps them apart where the test cannot.

## Main definitions

* `pulled`: A test of elements by their images.
* `Run.map`: The run of the images.

## Theorems

* `sortBy_map`: Sorting commutes with taking images.
-/

namespace DocQuery

namespace Sorting

variable {α β : Type} (f : β → α) (less : α → α → Bool)

/-- The test of elements that tests their images. -/
def pulled (a b : β) : Bool :=
  less (f a) (f b)

/-- Testing images is testing elements with the pulled test. -/
theorem less_image (a b : β) : less (f a) (f b) = pulled f less a b :=
  rfl

/-- The opposite of a pulled test is the opposite test, pulled. Merging from the
    back needs it. -/
theorem pulled_swap :
    (fun a b => pulled f less b a) = pulled f fun a b => less b a :=
  rfl

theorem insertSorted_map (x : β) (ys : List β) :
    insertSorted less (f x) (ys.map f) = (insertSorted (pulled f less) x ys).map f := by
  induction ys with
  | nil => rfl
  | cons y ys ih =>
      rw [List.map_cons, insertSorted, insertSorted, ih, pulled]
      -- The test is the same on both sides, so both stop at the same place.
      by_cases h : less (f x) (f y)
      · rw [if_pos h, if_pos h, List.map_cons]
      · rw [if_neg h, if_neg h, List.map_cons, List.map_cons]

/-- Inserting images one after the other is inserting the elements. -/
theorem foldl_insertSorted_map (xs ys : List β) :
    (xs.map f).foldl (fun ys x => insertSorted less x ys) (ys.map f) =
      (xs.foldl (fun ys x => insertSorted (pulled f less) x ys) ys).map f := by
  induction xs generalizing ys with
  | nil => rfl
  | cons x xs ih =>
      rw [List.map_cons, List.foldl_cons, insertSorted_map, ih, List.foldl_cons]

theorem extendSorted_map (sorted xs : List β) :
    extendSorted less (sorted.map f) (xs.map f) =
      (extendSorted (pulled f less) sorted xs).map f := by
  rw [extendSorted, extendSorted, ← List.map_reverse, foldl_insertSorted_map, List.map_reverse]

theorem insertionSort_map (xs : List β) :
    insertionSort less (xs.map f) = (insertionSort (pulled f less) xs).map f :=
  extendSorted_map f less [] xs

/-- Merging from the front compares the heads only, so the case split is the one
    on that comparison. The induction is on both lists, one inside the other. -/
theorem mergeUp_map (left right : List β) :
    mergeUp less (left.map f) (right.map f) = (mergeUp (pulled f less) left right).map f := by
  rw [mergeUp, mergeUp]
  induction left generalizing right with
  | nil => rw [List.map_nil, List.nil_merge, List.nil_merge]
  | cons l left ihl =>
      induction right with
      | nil => rw [List.map_nil, List.merge_right, List.merge_right]
      | cons r right ihr =>
          have hl := ihl (r :: right)
          rw [List.map_cons] at hl ihr
          simp only [List.map_cons, List.cons_merge_cons, pulled] at ihr hl ⊢
          split
          · rw [hl, List.map_cons]
          · rw [ihr, List.map_cons]

/-- From the back the lists are turned around and the test is taken the other
    way. -/
theorem mergeDown_map (left right : List β) :
    mergeDown less (left.map f) (right.map f) = (mergeDown (pulled f less) left right).map f := by
  rw [mergeDown, mergeDown, ← List.map_reverse, ← List.map_reverse, mergeUp_map,
    List.map_reverse]
  rfl

/-- Which end a merge starts from depends on lengths, and images have the same. -/
theorem mergeShorter_map (left right : List β) :
    mergeShorter less (left.map f) (right.map f) =
      (mergeShorter (pulled f less) left right).map f := by
  rw [mergeShorter, mergeShorter, List.length_map, List.length_map]
  split
  · exact mergeUp_map f less left right
  · exact mergeDown_map f less left right

/-- What is taken and both remainders have images of their own. -/
theorem takeMerged_map (count : Nat) (ls rs : List β) :
    takeMerged less count (ls.map f) (rs.map f) =
      ((takeMerged (pulled f less) count ls rs).1.map f,
        (takeMerged (pulled f less) count ls rs).2.1.map f,
        (takeMerged (pulled f less) count ls rs).2.2.map f) := by
  induction count generalizing ls rs with
  | zero => rfl
  | succ count ih =>
      rcases ls with _ | ⟨l, ls⟩
      · -- A list that is used up ends it on both sides.
        rfl
      rcases rs with _ | ⟨r, rs⟩
      · rfl
      have hl := ih (l :: ls) rs
      have hr := ih ls (r :: rs)
      rw [List.map_cons] at hl hr
      simp only [List.map_cons, takeMerged]
      by_cases h : pulled f less r l
      · simp only [if_pos h, if_pos (show less (f r) (f l) = true from h), hl, List.map_cons]
      · simp only [if_neg h, if_neg (show ¬less (f r) (f l) = true from h), hr, List.map_cons]

/-- The halves of images meet where the halves of the elements meet. -/
theorem mergeHalves_map (left right : List β) :
    mergeHalves less (left.map f) (right.map f) =
      (mergeHalves (pulled f less) left right).map (List.map f) := by
  have hfront := takeMerged_map f less ((left.length + right.length) / 2) left right
  have hback := takeMerged_map f (fun a b => less b a) ((left.length + right.length) / 2)
    right.reverse left.reverse
  -- From the back the test is the opposite one, which is a pulled test too.
  rw [← pulled_swap] at hback
  rw [mergeHalves, mergeHalves, List.length_map, List.length_map, ← List.map_reverse,
    ← List.map_reverse, hfront, hback]
  rcases takeMerged (pulled f less) ((left.length + right.length) / 2) left right with
    ⟨front, leftRest, rightRest⟩
  rcases takeMerged (fun a b => pulled f less b a) ((left.length + right.length) / 2)
    right.reverse left.reverse with ⟨back, rightStart, leftStart⟩
  -- Whether the halves meet is a matter of lengths.
  simp only [List.length_map]
  split
  · simp only [Option.map_some, List.map_append, List.map_take, List.map_reverse]
  · rfl

theorem sortTwo_map (a b : β) :
    sortTwo less (f a) (f b) = (sortTwo (pulled f less) a b).map f := by
  rw [sortTwo, sortTwo, less_image f less]
  split
  · rfl
  · rfl

/-- The four outcomes of the two comparisons put the elements into the same
    places. -/
theorem sortPairs_map (a b c d : β) :
    sortPairs less (f a) (f b) (f c) (f d) = (sortPairs (pulled f less) a b c d).map f := by
  rw [sortPairs, sortPairs]
  simp only [sortTwo_map, less_image]
  split
  · rw [List.cons_append, List.cons_append, List.map_cons, List.map_append]
    rfl
  · rw [List.cons_append, List.cons_append, List.map_cons, List.map_append]
    rfl
  · rw [List.cons_append, List.cons_append, List.map_cons, List.map_append]
    rfl
  · rw [List.cons_append, List.cons_append, List.map_cons, List.map_append]
    rfl

theorem sortFour_map (a b c d : β) :
    sortFour less (f a) (f b) (f c) (f d) = (sortFour (pulled f less) a b c d).map f := by
  rw [sortFour, sortFour]
  simp only [sortPairs_map, less_image]
  split
  · rfl
  · rfl
  · rfl
  · rfl

/-- Four elements first or not, a half is sorted alike. -/
theorem sortHalf_map (four : Bool) (xs : List β) :
    sortHalf less four (xs.map f) = (sortHalf (pulled f less) four xs).map f := by
  fun_cases sortHalf (pulled f less) four xs with
  | case1 a b c d xs =>
      simp only [List.map_cons, sortHalf, sortFour_map]
      exact extendSorted_map f less _ xs
  | case2 four xs h =>
      rw [sortHalf]
      · exact insertionSort_map f less xs
      · -- The other case of the definition: no four elements at the front of the images, as
        -- there are none at the front of the list.
        rintro a b c d rest rfl hxs
        rcases xs with _ | ⟨a', _ | ⟨b', _ | ⟨c', _ | ⟨d', xs⟩⟩⟩⟩
        · simp at hxs
        · simp at hxs
        · simp at hxs
        · simp at hxs
        · exact h a' b' c' d' xs rfl rfl

/-- A short list gives up with its images or not at all. -/
theorem sortShort_map (xs : List β) :
    sortShort less (xs.map f) = (sortShort (pulled f less) xs).map (List.map f) := by
  rw [sortShort, sortShort, List.length_map]
  split
  · rfl
  · -- The halves are cut by length, so the images are cut where the elements are.
    simp only [← List.map_take, ← List.map_drop, sortHalf_map]
    exact mergeHalves_map f less _ _

theorem countChained_map (related : α → α → Bool) (x : β) (ys : List β) :
    countChained related (f x) (ys.map f) = countChained (pulled f related) x ys := by
  induction ys generalizing x with
  | nil => rfl
  | cons y ys ih =>
      rw [List.map_cons, countChained, countChained, ih]
      rfl

/-- The stretch at the front is found by comparing neighbours. -/
theorem sortedFront_map (xs : List β) :
    sortedFront less (xs.map f) = sortedFront (pulled f less) xs := by
  rcases xs with _ | ⟨x, _ | ⟨y, xs⟩⟩
  · rfl
  · rfl
  · have hdown := countChained_map f less x (y :: xs)
    have hup := countChained_map f (fun b a => !less b a) x (y :: xs)
    rw [List.map_cons] at hdown hup
    rw [List.map_cons, List.map_cons, sortedFront, sortedFront, hdown, hup]
    rfl

namespace Run

/-- The run of the images. -/
def map (r : Run β) : Run α :=
  ⟨r.items.map f, r.sorted⟩

@[simp]
theorem map_items (r : Run β) : (r.map f).items = r.items.map f :=
  rfl

/-- The first run of the images is the run of the first elements. -/
theorem first_map (least : Nat) (now : Bool) (xs : List β) :
    first less least now (xs.map f) =
      (first (pulled f less) least now xs).map (Prod.map (map f) (List.map f)) := by
  rw [first, first, sortedFront_map]
  rcases sortedFront (pulled f less) xs with ⟨count, downward⟩
  simp only [← List.map_take, ← List.map_drop, sortShort_map]
  split
  · -- A stretch that is long enough is a run, and is turned around if it goes down.
    rcases downward
    · rfl
    · simp only [if_true, Option.map_some, Prod.map_apply, map, List.map_reverse]
  · split
    · -- A run that is sorted at once may give up.
      rw [Option.map_map, Option.map_map]
      rfl
    · rfl

/-- The induction is on the number of runs that are still allowed. -/
theorem ofListIn_map (least : Nat) (now : Bool) (count : Nat) (xs : List β) :
    ofListIn less least now count (xs.map f) =
      (ofListIn (pulled f less) least now count xs).map (List.map (map f)) := by
  induction count generalizing xs with
  -- With none left what remains is sorted as a whole.
  | zero =>
      rw [ofListIn, ofListIn, List.isEmpty_map, sortShort_map]
      split
      · rfl
      · rw [Option.map_map, Option.map_map]
        rfl
  | succ count ih =>
      rw [ofListIn, ofListIn, List.isEmpty_map]
      split
      · rfl
      · rw [first_map]
        rcases first (pulled f less) least now xs with _ | ⟨run, rest⟩
        · rfl
        · simp only [Option.map_some, Option.bind_eq_bind, Option.bind_some, Prod.map_apply, ih]
          cases ofListIn (pulled f less) least now count rest with
          | none => rfl
          | some runs => rfl

theorem ofList_map (now : Bool) (xs : List β) :
    ofList less now (xs.map f) = (ofList (pulled f less) now xs).map (List.map (map f)) := by
  rw [ofList, ofList, List.length_map, ofListIn_map]

end Run

/-- A sorting of images that is a sorting of the elements. -/
def Lifts (f : β → α) (sort : List α → Option (List α)) (sort' : List β → Option (List β)) :
    Prop :=
  ∀ xs, sort (xs.map f) = (sort' xs).map (List.map f)

variable {f} {sort : List α → Option (List α)} {sort' : List β → Option (List β)}

theorem toSorted_map (h : Lifts f sort sort') (r : Run β) :
    (r.map f).toSorted sort = (r.toSorted sort').map (List.map f) := by
  rw [Run.toSorted, Run.toSorted, Run.map]
  split
  · rfl
  · exact h r.items

/-- Two runs are merged if one of them is sorted. Otherwise the images are
    appended as the elements are, and wait for later. -/
theorem join_map (h : Lifts f sort sort') (left right : Run β) :
    (left.map f).join less sort (right.map f) =
      (left.join (pulled f less) sort' right).map (Run.map f) := by
  rw [Run.join, Run.join, toSorted_map h, toSorted_map h]
  by_cases hsorted : (left.sorted || right.sorted) = true
  · have himages : ((left.map f).sorted || (right.map f).sorted) = true := hsorted
    rw [if_pos himages, if_pos hsorted]
    cases left.toSorted sort' with
    | none => rfl
    | some ls =>
        cases right.toSorted sort' with
        | none => rfl
        | some rs =>
            exact congrArg (fun items => some (⟨items, true⟩ : Run α))
              (mergeShorter_map f less ls rs)
  · have himages : ¬((left.map f).sorted || (right.map f).sorted) = true := hsorted
    rw [if_neg himages, if_neg hsorted, Run.map_items, Run.map_items, ← List.map_append]
    rfl

/-- Depths are of places in the list, so images do not change them. -/
theorem collapse_map (h : Lifts f sort sort') (depth : Nat) (runs : List (Run β × Nat))
    (run : Run β) :
    collapse less sort depth (runs.map (Prod.map (Run.map f) id)) (run.map f) =
      (collapse (pulled f less) sort' depth runs run).map
        (Prod.map (List.map (Prod.map (Run.map f) id)) (Run.map f)) := by
  induction runs generalizing run with
  | nil => rfl
  | cons p runs ih =>
      rcases p with ⟨left, d⟩
      rw [List.map_cons, Prod.map_apply, id_eq, collapse, collapse, join_map less h]
      split
      · -- Where a join gives up, so does everything that waits for it.
        cases left.join (pulled f less) sort' run with
        | none => rfl
        | some both => exact ih both
      · rfl

/-- The lengths of runs decide where they meet, and images have the same. -/
theorem joinRuns_map (h : Lifts f sort sort') (n : Nat) (earlier : List (Run β × Nat))
    (run : Run β) (stop : Nat) (runs : List (Run β)) :
    joinRuns less sort n (earlier.map (Prod.map (Run.map f) id)) (run.map f) stop
        (runs.map (Run.map f)) =
      (joinRuns (pulled f less) sort' n earlier run stop runs).map (Run.map f) := by
  induction runs generalizing earlier run stop with
  | nil =>
      rw [List.map_nil, joinRuns, joinRuns, collapse_map less h, Option.map_map, Option.map_map]
      rfl
  -- The run at hand goes to those before it, with the depth at which it meets the next.
  | cons next runs ih =>
      rw [List.map_cons, joinRuns, joinRuns]
      simp only [collapse_map less h, Run.map_items, List.length_map, Option.bind_eq_bind]
      cases collapse (pulled f less) sort' _ earlier run with
      | none => rfl
      | some collapsed => exact ih ((collapsed.2, _) :: collapsed.1) next _

/-- If the sort of what is left for later commutes with images, so does sorting
    by runs. -/
theorem sortRuns_map (h : Lifts f sort sort') (now : Bool) :
    Lifts f (sortRuns less sort now) (sortRuns (pulled f less) sort' now) := by
  intro xs
  rw [sortRuns, sortRuns, Run.ofList_map]
  rcases Run.ofList (pulled f less) now xs with _ | ⟨_ | ⟨run, runs⟩⟩
  · rfl
  · rfl
  · -- At the start no run stands before the first one.
    have hj := joinRuns_map less h xs.length [] run run.items.length runs
    rw [List.map_nil] at hj
    simp only [Option.map_some, Option.bind_eq_bind, Option.bind_some, List.map_cons,
      List.length_map, Run.map_items, hj]
    cases joinRuns (pulled f less) sort' xs.length [] run run.items.length runs with
    | none => rfl
    | some joined => exact toSorted_map h joined

variable (f)

theorem median_map (a b c : β × Nat) :
    median less (Prod.map f id a) (Prod.map f id b) (Prod.map f id c) =
      Prod.map f id (median (pulled f less) a b c) := by
  rw [median, median, apply_ite (Prod.map f id), apply_ite (Prod.map f id)]
  rfl

/-- The medians of images are taken at the same places. -/
theorem medianIn_map (times : Nat) (xs : List (β × Nat)) :
    medianIn less times (xs.map (Prod.map f id)) =
      (medianIn (pulled f less) times xs).map (Prod.map f id) := by
  induction times generalizing xs with
  | zero => rw [medianIn, medianIn, List.head?_map]
  | succ times ih =>
      simp only [medianIn, List.length_map, ← List.map_take, ← List.map_drop, ih, List.head?_map]
      split
      · rfl
      · -- One part of the three after the other, each of which may be empty.
        rcases medianIn (pulled f less) times (xs.take (xs.length / 8)) with _ | a
        · rfl
        rcases medianIn (pulled f less) times
          ((xs.drop (4 * (xs.length / 8))).take (xs.length / 8)) with _ | b
        · rfl
        rcases medianIn (pulled f less) times
          ((xs.drop (7 * (xs.length / 8))).take (xs.length / 8)) with _ | c
        · rfl
        exact congrArg some (median_map f less a b c)

/-- The pivot is known by its place, so it is the same for the images. -/
theorem pivotPlace_map (xs : List β) :
    pivotPlace less (xs.map f) = pivotPlace (pulled f less) xs := by
  rw [pivotPlace, pivotPlace, List.zipIdx_map, List.length_map, medianIn_map, Option.map_map]
  rfl

/-- The side of an element is decided by its image or its place. -/
theorem divide_map (goesLeft : α → Bool) (pivotLeft : Bool) (place : Nat) (xs : List β) :
    divide goesLeft pivotLeft place (xs.map f) =
      ((divide (fun x => goesLeft (f x)) pivotLeft place xs).1.map f,
        (divide (fun x => goesLeft (f x)) pivotLeft place xs).2.map f) := by
  simp only [divide, List.zipIdx_map, List.map_map, List.filter_map]
  rfl

/-- The induction is on how often a list may still be divided, for every floor.
    The floor is an element of the list, so it has an image as well. -/
theorem sortDivided_map (times : Nat) (floor : Option β) (xs : List β) :
    sortDivided less times (floor.map f) (xs.map f) =
      (sortDivided (pulled f less) times floor xs).map (List.map f) := by
  induction times generalizing floor xs with
  | zero =>
      rw [sortDivided, sortDivided, List.length_map, sortShort_map,
        sortRuns_map less (sortShort_map f less)]
      split
      · rfl
      · rfl
  | succ times ih =>
      rw [sortDivided, sortDivided, List.length_map, sortShort_map, pivotPlace_map]
      simp only [List.getElem?_map]
      split
      · rfl
      rcases hx : xs[pivotPlace (pulled f less) xs]? with _ | pivot
      · simp only [Option.map_none]
      · -- Each part is sorted with a floor of its own: none at all, the old one, or the
        -- pivot.
        have hn := ih none
        have hs := ih (some pivot)
        rw [Option.map_none] at hn
        rw [Option.map_some] at hs
        -- The test that divides is the pulled one, with the pivot of the list.
        simp only [Option.map_some, divide_map, hn, hs, ih, Option.any_map, List.isEmpty_map,
          less_image f less]
        split
        · -- Nothing is less than the pivot, so only the upper part is left to sort.
          rw [Option.map_map, Option.map_map]
          exact congrArg (Option.map · _) (funext fun ys => List.map_append.symm)
        · -- The lower part is sorted first, so it is the first that may give up.
          cases sortDivided (pulled f less) times floor
              (divide (fun x => pulled f less x pivot) false _ xs).1 with
          | none => rfl
          | some lower =>
              cases sortDivided (pulled f less) times (some pivot)
                  (divide (fun x => pulled f less x pivot) false _ xs).2 with
              | none => rfl
              | some upper => exact congrArg some List.map_append.symm

/-- A list that is divided is sorted with its images. -/
theorem sortLong_map : Lifts f (sortLong less) (sortLong (pulled f less)) := by
  intro xs
  rw [sortLong, sortLong, List.length_map]
  exact sortDivided_map f less _ none xs

/-- To sort the images of elements is to sort the elements by the test of their
    images, and one gives up if the other does. -/
theorem sortBy_map (xs : List β) :
    sortBy less (xs.map f) = (sortBy (pulled f less) xs).map (List.map f) := by
  rw [sortBy, sortBy, List.length_map, insertionSort_map, sortRuns_map less (sortLong_map f less)]
  split
  · rfl
  · rfl

end Sorting

end DocQuery
