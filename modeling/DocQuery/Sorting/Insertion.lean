/-!
# Sorting by Insertion

Putting elements into their places one after the other. An element is compared
with those before it from the last of them on, and stays behind the first one
that it is not less than, so equal elements keep their order.

What is less than what is any test. Sorting means something where the test is
an order; for any other test the sequence of comparisons decides, and it is
kept as it is.

## Main definitions

* `insertSorted`: Put an element into its place.
* `extendSorted`: Put elements into a sorted list.
* `insertionSort`: Sort a list.

## Theorems

* `perm_extendSorted`, `perm_insertionSort`: Nothing is lost or added.
-/

namespace DocQuery

namespace Sorting

variable {α : Type}

/-- Put an element into a list that is sorted downward, in front of the first
    element it is not less than. -/
def insertSorted (less : α → α → Bool) (x : α) : List α → List α
  | [] => [x]
  | y :: ys => if less x y then y :: insertSorted less x ys else x :: y :: ys

/-- Put elements into a sorted list, one after the other. -/
def extendSorted (less : α → α → Bool) (sorted xs : List α) : List α :=
  (xs.foldl (fun ys x => insertSorted less x ys) sorted.reverse).reverse

/-- Sort a list by putting each element into its place. -/
def insertionSort (less : α → α → Bool) (xs : List α) : List α :=
  extendSorted less [] xs

theorem perm_insertSorted (less : α → α → Bool) (x : α) (ys : List α) :
    (insertSorted less x ys).Perm (x :: ys) := by
  induction ys with
  | nil => exact .refl _
  | cons y ys ih =>
      rw [insertSorted]
      split
      · exact (ih.cons y).trans (.swap x y ys)
      · exact .refl _

theorem perm_foldl_insertSorted (less : α → α → Bool) (xs ys : List α) :
    (xs.foldl (fun ys x => insertSorted less x ys) ys).Perm (ys ++ xs) := by
  induction xs generalizing ys with
  | nil => simp
  | cons x xs ih =>
      refine (ih _).trans (((perm_insertSorted less x ys).append_right xs).trans ?_)
      exact List.perm_middle.symm

theorem perm_extendSorted (less : α → α → Bool) (sorted xs : List α) :
    (extendSorted less sorted xs).Perm (sorted ++ xs) :=
  (List.reverse_perm _).trans ((perm_foldl_insertSorted less xs _).trans
    ((List.reverse_perm sorted).append_right xs))

theorem perm_insertionSort (less : α → α → Bool) (xs : List α) :
    (insertionSort less xs).Perm xs :=
  perm_extendSorted less [] xs

end Sorting

end DocQuery
