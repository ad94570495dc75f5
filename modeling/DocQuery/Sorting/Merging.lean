/-!
# Merging Sorted Lists

Two sorted lists become one in two ways. Either the elements are compared from
one end until one of the lists is used up, or half of the result is taken from
the front and half of it from the back. Of equal elements those of the left
list come first.

If the test is no order, the two halves of the second way may take the same
element. Such a merge gives up, and so does every sort that comes to it.

## Main definitions

* `mergeShorter`: Merge from the end where the shorter list starts.
* `mergeHalves`: Merge from both ends, or give up.

## Theorems

* `perm_mergeShorter`, `perm_mergeHalves`: Nothing is lost or added.
-/

namespace DocQuery

namespace Sorting

variable {α : Type}

/-- Merge two lists from the front. -/
def mergeUp (less : α → α → Bool) (left right : List α) : List α :=
  left.merge right fun l r => !less r l

/-- Merge two lists from the back. -/
def mergeDown (less : α → α → Bool) (left right : List α) : List α :=
  (mergeUp (fun a b => less b a) right.reverse left.reverse).reverse

/-- Merge two lists: from the front if the left one is not longer, and from the
    back otherwise. -/
def mergeShorter (less : α → α → Bool) (left right : List α) : List α :=
  if left.length ≤ right.length then mergeUp less left right else mergeDown less left right

/-- Take so many elements from the front of two lists. The results are those
    elements and what remains of the lists. -/
def takeMerged (less : α → α → Bool) : Nat → List α → List α → List α × List α × List α
  | count + 1, l :: ls, r :: rs =>
    if less r l then
      let (taken, rest) := takeMerged less count (l :: ls) rs
      (r :: taken, rest)
    else
      let (taken, rest) := takeMerged less count ls (r :: rs)
      (l :: taken, rest)
  | _, ls, rs => ([], ls, rs)

/-- Merge two lists, half of the elements from each end, unless the two halves
    would take the same element. -/
def mergeHalves (less : α → α → Bool) (left right : List α) : Option (List α) :=
  let half := (left.length + right.length) / 2
  let (front, leftRest, rightRest) := takeMerged less half left right
  let (back, rightStart, leftStart) :=
    takeMerged (fun a b => less b a) half right.reverse left.reverse
  -- What is left for the middle is what neither side has taken.
  if left.length ≤ leftRest.length + leftStart.length ∧
      right.length ≤ rightRest.length + rightStart.length then
    some (front ++ leftRest.take (leftRest.length + leftStart.length - left.length) ++
      rightRest.take (rightRest.length + rightStart.length - right.length) ++ back.reverse)
  else none

theorem perm_mergeUp (less : α → α → Bool) (left right : List α) :
    (mergeUp less left right).Perm (left ++ right) :=
  List.merge_perm_append _

theorem perm_mergeDown (less : α → α → Bool) (left right : List α) :
    (mergeDown less left right).Perm (left ++ right) := by
  refine (List.reverse_perm _).trans ((perm_mergeUp _ _ _).trans ?_)
  exact ((List.reverse_perm right).append (List.reverse_perm left)).trans List.perm_append_comm

theorem perm_mergeShorter (less : α → α → Bool) (left right : List α) :
    (mergeShorter less left right).Perm (left ++ right) := by
  rw [mergeShorter]
  split
  · exact perm_mergeUp less left right
  · exact perm_mergeDown less left right

/-- What is taken comes from the front of the two lists. -/
theorem takeMerged_spec (less : α → α → Bool) (count : Nat) (ls rs : List α) :
    ∃ as bs, ls = as ++ (takeMerged less count ls rs).2.1 ∧
      rs = bs ++ (takeMerged less count ls rs).2.2 ∧
      (takeMerged less count ls rs).1.Perm (as ++ bs) := by
  fun_induction takeMerged less count ls rs with
  | case1 count l ls r rs h taken rest heq ih =>
      rcases ih with ⟨as, bs, ha, hb, hp⟩
      rw [heq] at ha hb hp
      exact ⟨as, r :: bs, ha, by rw [List.cons_append, ← hb],
        (hp.cons r).trans List.perm_middle.symm⟩
  | case2 count l ls r rs h taken rest heq ih =>
      rcases ih with ⟨as, bs, ha, hb, hp⟩
      rw [heq] at ha hb hp
      exact ⟨l :: as, bs, by rw [List.cons_append, ← ha], hb, hp.cons l⟩
  | case3 => exact ⟨[], [], rfl, rfl, .refl _⟩

/-- A list is what is taken from the front, what is taken from the back and the
    middle between them. -/
theorem perm_append_middle (xs as rest bs start : List α) (hfront : xs = as ++ rest)
    (hback : xs.reverse = bs ++ start) (hle : xs.length ≤ rest.length + start.length) :
    (as ++ rest.take (rest.length + start.length - xs.length) ++ bs.reverse).Perm xs := by
  have hxs : xs = start.reverse ++ bs.reverse := by
    rw [← List.reverse_append, ← hback, List.reverse_reverse]
  have hlen : as.length + rest.length = xs.length := by rw [hfront, List.length_append]
  have hlen' : start.length + bs.length = xs.length := by
    rw [hxs, List.length_append, List.length_reverse, List.length_reverse]
  -- The elements taken from the back end the rest of the front.
  have hdrop : rest.drop (rest.length + start.length - xs.length) = bs.reverse := by
    have h₁ : xs.drop start.length = bs.reverse := by
      rw [hxs]
      exact List.drop_left' (List.length_reverse)
    have h₂ : xs.drop start.length = rest.drop (start.length - as.length) := by
      rw [hfront, List.drop_append, List.drop_eq_nil_of_le (by omega), List.nil_append]
    rw [← h₁, h₂]
    congr 1
    omega
  rw [← hdrop, List.append_assoc, List.take_append_drop, ← hfront]

/-- What two lists have at the front, in the middle and at the back can be put
    together list by list. -/
theorem perm_parts (as bs ls rs cs ds : List α) :
    (as ++ bs ++ ls ++ rs ++ (cs ++ ds)).Perm (as ++ ls ++ ds ++ (bs ++ rs ++ cs)) := by
  simp only [List.append_assoc]
  refine List.Perm.append_left as ((List.perm_append_comm_assoc bs ls _).trans ?_)
  refine List.Perm.append_left ls ?_
  have h : bs ++ (rs ++ (cs ++ ds)) = bs ++ (rs ++ cs) ++ ds := by
    simp only [List.append_assoc]
  rw [h]
  exact List.perm_append_comm

theorem perm_mergeHalves (less : α → α → Bool) {left right merged : List α}
    (hmerged : mergeHalves less left right = some merged) : merged.Perm (left ++ right) := by
  rw [mergeHalves] at hmerged
  rcases hf : takeMerged less ((left.length + right.length) / 2) left right with
    ⟨front, leftRest, rightRest⟩
  rcases hb : takeMerged (fun a b => less b a) ((left.length + right.length) / 2)
    right.reverse left.reverse with ⟨back, rightStart, leftStart⟩
  rcases takeMerged_spec less ((left.length + right.length) / 2) left right with
    ⟨as, bs, ha, hbs, hp⟩
  rcases takeMerged_spec (fun a b => less b a) ((left.length + right.length) / 2)
    right.reverse left.reverse with ⟨cs, ds, hc, hd, hq⟩
  rw [hf] at ha hbs hp
  rw [hb] at hc hd hq
  rw [hf, hb] at hmerged
  simp only at ha hbs hp hc hd hq hmerged
  split at hmerged
  · rename_i h
    rw [← Option.some.inj hmerged]
    have h₁ := perm_append_middle left as leftRest ds leftStart ha hd h.1
    have h₂ := perm_append_middle right bs rightRest cs rightStart hbs hc h.2
    refine List.Perm.trans ?_ (h₁.append h₂)
    refine (((hp.append_right _).append_right _).append
      ((List.reverse_perm back).trans hq)).trans ?_
    refine List.Perm.trans ?_ (((List.Perm.refl _).append (List.reverse_perm ds).symm).append
      ((List.Perm.refl _).append (List.reverse_perm cs).symm))
    exact perm_parts as bs _ _ cs ds
  · exact nomatch hmerged

end Sorting

end DocQuery
