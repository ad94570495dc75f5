import DocQuery.Proofs.Sorting.Map
import Mathlib.Data.List.Basic
import Mathlib.Tactic.Common

/-!
# Stable Sorting

What it means that a list is another list sorted, and that of equal elements
none has overtaken another. A list is determined by that. Insertion and all the
ways of merging have this property, if the test is consistent.

Merging from both ends is the one step that can give up. If the test is
consistent, what is taken from the front is the front of the merged list, and
what is taken from the back is its back. So the halves cannot overlap, however
many elements are equal: each element is told apart from the equal ones by the
list it comes from, and `mergeHalves_eq_of_sides` counts on each side what is
left for the middle.

Equality of elements is not used anywhere. `Sorts.classes` compares, for each
element, the elements alike to it in the two lists, so a stable sort is
described without a word about places. That determines the list: the first
elements of two sorted lists are alike, and each is the first one of its class,
so they are one element (`Sorts.eq_of_classes`). Places come back in
`Sorts.pairwise`, for whatever relation the elements stood in.

Two uses of uniqueness carry most of what follows. Merging from the back gives
the list that merging from the front gives, since both are sorted stably. And to
drop elements before sorting gives what dropping them afterwards does.

## Main definitions

* `Consistent`: A test that puts elements into classes, and the classes in order.
* `alike`: Being in the same class.
* `Sorts`: One list is another one, sorted stably.
* `SortsTo`: A sort succeeds with a list that is sorted stably.

## Theorems

* `Sorts.unique`: There is one way to sort a list stably.
* `Sorts.filter`: To drop elements does not disturb the others.
* `Sorts.pairwise`: Elements that are alike stand to each other as they stood.
* `sorts_insertionSort`, `sorts_mergeUp`, `sorts_mergeDown`: Inserting and merging.
* `mergeHalves_eq`: Merging from both ends is merging from the front.
-/

namespace DocQuery

namespace Sorting

variable {α : Type}

/-- A test that puts elements into classes, and the classes in order. -/
structure Consistent (less : α → α → Bool) : Prop where
  asymm : ∀ a b, less a b = true → less b a = false
  trans : ∀ a b c, less b a = false → less c b = false → less c a = false

/-- Neither element is less than the other. -/
def alike (less : α → α → Bool) (a b : α) : Bool :=
  !less a b && !less b a

/-- A list is another one, sorted stably. No element is less than one before
    it, and elements that are alike stand as they stood. -/
structure Sorts (less : α → α → Bool) (xs ys : List α) : Prop where
  sorted : ys.Pairwise fun a b => less b a = false
  classes : ∀ v, ys.filter (alike less v) = xs.filter (alike less v)

/-- A way of sorting has a result for a list, and that is the list sorted. -/
def SortsTo (less : α → α → Bool) (xs : List α) (result : Option (List α)) : Prop :=
  ∃ ys, result = some ys ∧ Sorts less xs ys

variable {less : α → α → Bool}

theorem alike_iff {a b : α} : alike less a b = true ↔ less a b = false ∧ less b a = false := by
  rw [alike, Bool.and_eq_true, Bool.not_eq_true', Bool.not_eq_true']

namespace Consistent

theorem irrefl (h : Consistent less) (a : α) : less a a = false := by
  by_contra ha
  rw [Bool.not_eq_false] at ha
  rw [h.asymm a a ha] at ha
  exact Bool.false_ne_true ha

theorem alike_self (h : Consistent less) (a : α) : alike less a a = true :=
  alike_iff.mpr ⟨h.irrefl a, h.irrefl a⟩

/-- The opposite of a consistent test is consistent. -/
theorem flip (h : Consistent less) : Consistent fun a b => less b a :=
  ⟨fun a b hab => h.asymm b a hab, fun a b c hab hbc => h.trans c b a hbc hab⟩

/-- What is less than an element is less than what is not less than that. -/
theorem less_of_less (h : Consistent less) {a b c : α} (hab : less a b = true)
    (hcb : less c b = false) : less a c = true := by
  by_contra hac
  rw [Bool.not_eq_true] at hac
  rw [h.trans b c a hcb hac] at hab
  exact Bool.false_ne_true hab

/-- Of two elements that are not alike no element is alike to both. -/
theorem not_alike_of_less (h : Consistent less) {a b v : α} (hab : less a b = true)
    (hv : alike less v a = true) : alike less v b = false := by
  rcases hb : alike less v b with _ | _
  · rfl
  · rw [alike_iff] at hv hb
    rw [h.trans b v a hb.1 hv.2] at hab
    exact absurd hab Bool.false_ne_true

end Consistent

/-- And has the same classes. -/
theorem alike_flip (v : α) : alike (fun a b => less b a) v = alike less v := by
  funext x
  exact Bool.and_comm _ _

namespace Sorts

/-- A sorted list is itself sorted. -/
theorem of_sorted {xs : List α} (h : xs.Pairwise fun a b => less b a = false) :
    Sorts less xs xs :=
  ⟨h, fun _ => rfl⟩

/-- Turned around, a list is sorted by the opposite test. -/
theorem reverse {xs ys : List α} (h : Sorts less xs ys) :
    Sorts (fun a b => less b a) xs.reverse ys.reverse := by
  refine ⟨List.pairwise_reverse.mpr h.sorted, fun v => ?_⟩
  rw [alike_flip, List.filter_reverse, List.filter_reverse, h.classes]

/-- To drop elements does not disturb the others. -/
theorem filter {xs ys : List α} (h : Sorts less xs ys) (p : α → Bool) :
    Sorts less (xs.filter p) (ys.filter p) := by
  refine ⟨h.sorted.filter p, fun v => ?_⟩
  rw [List.filter_comm, h.classes, List.filter_comm]

/-- An element of one of two sorted lists of the same classes is in the other one. -/
theorem mem_of_mem {less : α → α → Bool} (hless : Consistent less) {ys zs : List α}
    (h : ∀ v, ys.filter (alike less v) = zs.filter (alike less v)) {x : α} (hx : x ∈ ys) :
    x ∈ zs := by
  have hf : x ∈ ys.filter (alike less x) := List.mem_filter.mpr ⟨hx, hless.alike_self x⟩
  rw [h x] at hf
  exact List.mem_of_mem_filter hf

/-- Sorting keeps the elements, since each is in its own class. -/
theorem mem_iff (hless : Consistent less) {xs ys : List α} (h : Sorts less xs ys) (x : α) :
    x ∈ ys ↔ x ∈ xs :=
  ⟨mem_of_mem hless h.classes, mem_of_mem hless fun v => (h.classes v).symm⟩

/-- The first elements of two sorted lists of the same classes are not less than
    each other. -/
theorem head_not_less (hless : Consistent less) {y z : α} {ys zs : List α}
    (hz : (z :: zs).Pairwise fun a b => less b a = false)
    (h : ∀ v, (y :: ys).filter (alike less v) = (z :: zs).filter (alike less v)) :
    less y z = false := by
  rcases List.mem_cons.mp (mem_of_mem hless h List.mem_cons_self) with rfl | hy
  · exact hless.irrefl y
  · exact (List.pairwise_cons.mp hz).1 y hy

/-- Two sorted lists with the same classes are equal. The induction is on the
    first list, and the classes of the tails are compared by taking the common
    head off. -/
theorem eq_of_classes (hless : Consistent less) {ys zs : List α}
    (hy : ys.Pairwise fun a b => less b a = false) (hz : zs.Pairwise fun a b => less b a = false)
    (h : ∀ v, ys.filter (alike less v) = zs.filter (alike less v)) : ys = zs := by
  induction ys generalizing zs with
  | nil =>
      rcases zs with _ | ⟨z, zs⟩
      · rfl
      · exact absurd (mem_of_mem hless (fun v => (h v).symm) List.mem_cons_self) List.not_mem_nil
  | cons y ys ih =>
      rcases zs with _ | ⟨z, zs⟩
      · exact absurd (mem_of_mem hless h List.mem_cons_self) List.not_mem_nil
      have hyz : alike less y z = true :=
        alike_iff.mpr ⟨head_not_less hless hz h, head_not_less hless hy fun v => (h v).symm⟩
      -- The first elements are alike, so both are the first one of their class.
      have heq := h y
      rw [List.filter_cons_of_pos (hless.alike_self y), List.filter_cons_of_pos hyz] at heq
      have hhead : y = z := (List.cons.inj heq).1
      subst hhead
      refine congrArg _ (ih hy.of_cons hz.of_cons fun v => ?_)
      have hv := h v
      rw [List.filter_cons, List.filter_cons] at hv
      split at hv
      · -- The head is of this class or it is not, in both lists alike.
        exact (List.cons.inj hv).2
      · exact hv

/-- There is one way to sort a list stably. -/
theorem unique (hless : Consistent less) {xs ys zs : List α} (hy : Sorts less xs ys)
    (hz : Sorts less xs zs) : ys = zs :=
  eq_of_classes hless hy.sorted hz.sorted fun v => (hy.classes v).trans (hz.classes v).symm

/-- How the elements stand to each other before they are sorted, those that are
    alike do afterwards. -/
theorem pairwise (hless : Consistent less) {R : α → α → Prop} {xs ys : List α}
    (h : Sorts less xs ys) (hR : xs.Pairwise R) :
    ys.Pairwise fun a b => less a b = true ∨ alike less a b = true ∧ R a b := by
  rw [List.pairwise_iff_forall_sublist] at hR ⊢
  intro a b hab
  have hba : less b a = false := List.pairwise_iff_forall_sublist.mp h.sorted hab
  rcases hlt : less a b with _ | _
  · -- The two are in one class, and that has been sorted out of the list as it was.
    have halike : alike less a b = true := alike_iff.mpr ⟨hlt, hba⟩
    have hclass := hab.filter (alike less a)
    rw [List.filter_cons_of_pos (hless.alike_self a), List.filter_cons_of_pos halike,
      List.filter_nil, h.classes a] at hclass
    exact .inr ⟨halike, hR (hclass.trans List.filter_sublist)⟩
  · exact .inl rfl

end Sorts

theorem mem_insertSorted {x y : α} {ys : List α} :
    y ∈ insertSorted less x ys ↔ y = x ∨ y ∈ ys := by
  rw [(perm_insertSorted less x ys).mem_iff, List.mem_cons]

/-- The list is sorted downward here, so the test is the opposite one. An
    element passes those it is less than, and stops before one that is alike,
    which keeps the order of the two. -/
theorem sorts_insertSorted (hless : Consistent less) {x : α} {ys : List α}
    (h : ys.Pairwise fun a b => less a b = false) :
    Sorts (fun a b => less b a) (x :: ys) (insertSorted less x ys) := by
  induction ys with
  | nil => exact Sorts.of_sorted (List.pairwise_singleton _ x)
  | cons y ys ih =>
      have hys := List.pairwise_cons.mp h
      have htail := ih hys.2
      rw [insertSorted]
      split
      · rename_i hxy
        refine ⟨List.pairwise_cons.mpr ⟨fun b hb => ?_, htail.sorted⟩, fun v => ?_⟩
        · rcases mem_insertSorted.mp hb with rfl | hb
          · exact hless.asymm b y hxy
          · exact hys.1 b hb
        · have hv := htail.classes v
          rw [alike_flip] at hv ⊢
          rw [List.filter_cons, hv]
          -- The two that change places are not alike.
          rcases hvx : alike less v x with _ | _
          · rw [List.filter_cons_of_neg (by rw [hvx]; exact Bool.false_ne_true),
              List.filter_cons_of_neg (by rw [hvx]; exact Bool.false_ne_true), List.filter_cons]
          · have hvy := hless.not_alike_of_less hxy hvx
            rw [if_neg (by rw [hvy]; exact Bool.false_ne_true), List.filter_cons_of_pos hvx,
              List.filter_cons_of_pos hvx,
              List.filter_cons_of_neg (by rw [hvy]; exact Bool.false_ne_true)]
      · rename_i hxy
        rw [Bool.not_eq_true] at hxy
        -- It stays in front, and all that follow are not greater by consistency.
        refine Sorts.of_sorted (List.pairwise_cons.mpr ⟨fun b hb => ?_, h⟩)
        rcases List.mem_cons.mp hb with rfl | hb
        · exact hxy
        · exact hless.trans b y x (hys.1 b hb) hxy

/-- The elements inserted one after the other stand last first in front of the
    sorted ones. -/
theorem sorts_foldl_insertSorted (hless : Consistent less) (xs : List α) {ys : List α}
    (h : ys.Pairwise fun a b => less a b = false) :
    Sorts (fun a b => less b a) (xs.reverse ++ ys)
      (xs.foldl (fun ys x => insertSorted less x ys) ys) := by
  induction xs generalizing ys with
  | nil => exact Sorts.of_sorted h
  | cons x xs ih =>
      have hx := sorts_insertSorted hless (x := x) h
      refine ⟨(ih hx.sorted).sorted, fun v => ?_⟩
      rw [List.foldl_cons, (ih hx.sorted).classes v, List.filter_append, hx.classes v,
        ← List.filter_append, List.reverse_cons, List.append_assoc]
      rfl

/-- Inserting into a sorted list extends what it is sorted from. -/
theorem sorts_extendSorted (hless : Consistent less) {ws sorted : List α}
    (h : Sorts less ws sorted) (xs : List α) :
    Sorts less (ws ++ xs) (extendSorted less sorted xs) := by
  have hf := (sorts_foldl_insertSorted hless xs (List.pairwise_reverse.mpr h.sorted)).reverse
  refine ⟨hf.sorted, fun v => ?_⟩
  have hv := hf.classes v
  rw [List.reverse_append, List.reverse_reverse, List.reverse_reverse, List.filter_append] at hv
  rw [List.filter_append, ← h.classes v]
  exact hv

/-- Inserting into the empty list sorts a list. -/
theorem sorts_insertionSort (hless : Consistent less) (xs : List α) :
    Sorts less xs (insertionSort less xs) :=
  sorts_extendSorted hless (Sorts.of_sorted .nil) xs

/-- A merged list has the elements of both. -/
theorem mem_mergeUp {left right : List α} {x : α} :
    x ∈ mergeUp less left right ↔ x ∈ left ∨ x ∈ right := by
  rw [(perm_mergeUp less left right).mem_iff, List.mem_append]

theorem mergeUp_nil_left (right : List α) : mergeUp less [] right = right := by
  rw [mergeUp, List.nil_merge]

theorem mergeUp_nil_right (left : List α) : mergeUp less left [] = left := by
  rw [mergeUp, List.merge_right]

/-- The element of the right list goes first only if it is less. -/
theorem mergeUp_cons (l r : α) (left right : List α) :
    mergeUp less (l :: left) (r :: right) =
      if less r l then r :: mergeUp less (l :: left) right
      else l :: mergeUp less left (r :: right) := by
  rw [mergeUp, List.cons_merge_cons]
  rcases less r l with _ | _
  · rfl
  · rfl

/-- Merging keeps the order of the elements for which a property holds if they
    come from one list. -/
theorem filter_mergeUp_left {p : α → Bool} {left right : List α}
    (hr : ∀ x ∈ right, p x = false) : (mergeUp less left right).filter p = left.filter p := by
  induction left generalizing right with
  | nil =>
      rw [mergeUp_nil_left, List.filter_nil, List.filter_eq_nil_iff]
      intro x hx
      rw [hr x hx]
      exact Bool.false_ne_true
  | cons l left ihl =>
      induction right with
      | nil => rw [mergeUp_nil_right]
      | cons r right ihr =>
          have hhead := hr r List.mem_cons_self
          have htail := ihr fun x hx => hr x (List.mem_cons_of_mem _ hx)
          rw [mergeUp_cons]
          split
          · -- An element of the right list is dropped wherever it comes in.
            rw [List.filter_cons_of_neg (by rw [hhead]; exact Bool.false_ne_true), htail]
          · rw [List.filter_cons, List.filter_cons, ihl hr]

/-- The same for the right list. That list is induced on inside, since either of
    the two may give the next element. -/
theorem filter_mergeUp_right {p : α → Bool} {left right : List α}
    (hl : ∀ x ∈ left, p x = false) : (mergeUp less left right).filter p = right.filter p := by
  induction left generalizing right with
  | nil => rw [mergeUp_nil_left]
  | cons l left ihl =>
      have hhead := hl l List.mem_cons_self
      induction right with
      | nil =>
          rw [mergeUp_nil_right, List.filter_nil, List.filter_eq_nil_iff]
          intro x hx
          rw [hl x hx]
          exact Bool.false_ne_true
      | cons r right ihr =>
          rw [mergeUp_cons]
          split
          · rw [List.filter_cons, List.filter_cons, ihr]
          · rw [List.filter_cons_of_neg (by rw [hhead]; exact Bool.false_ne_true),
              ihl fun x hx => hl x (List.mem_cons_of_mem _ hx)]

/-- Merging two sorted lists sorts them appended. The induction follows the
    merge: at each step one of the two heads goes first, and the tail of its
    list is merged. -/
theorem sorts_mergeUp_self (hless : Consistent less) {left right : List α}
    (hl : left.Pairwise fun a b => less b a = false)
    (hr : right.Pairwise fun a b => less b a = false) :
    Sorts less (left ++ right) (mergeUp less left right) := by
  induction left generalizing right with
  | nil =>
      rw [mergeUp_nil_left]
      exact Sorts.of_sorted hr
  | cons l left ihl =>
      induction right with
      | nil =>
          rw [mergeUp_nil_right, List.append_nil]
          exact Sorts.of_sorted hl
      | cons r right ihr =>
          have hl' := List.pairwise_cons.mp hl
          have hr' := List.pairwise_cons.mp hr
          have hleft := ihl hl'.2 hr
          have hright := ihr hr'.2
          rw [mergeUp_cons]
          split
          · rename_i hrl
            -- The head of the right list is less than everything in the left one.
            have hall : ∀ x ∈ l :: left, less r x = true := by
              intro x hx
              rcases List.mem_cons.mp hx with rfl | hx
              · exact hrl
              · exact hless.less_of_less hrl (hl'.1 x hx)
            -- It is before everything else in order, and its class is in the right list
            -- only.
            refine ⟨List.pairwise_cons.mpr ⟨fun x hx => ?_, hright.sorted⟩, fun v => ?_⟩
            · rcases mem_mergeUp.mp hx with hx | hx
              · exact hless.asymm r x (hall x hx)
              · exact hr'.1 x hx
            · rw [List.filter_cons, hright.classes v, List.filter_append, List.filter_append,
                List.filter_cons (x := r)]
              split
              · rename_i hv
                -- What is alike to `r` is not in the left list.
                have hnone : (l :: left).filter (alike less v) = [] := by
                  rw [List.filter_eq_nil_iff]
                  intro x hx
                  rw [hless.not_alike_of_less (hall x hx) hv]
                  exact Bool.false_ne_true
                rw [hnone, List.nil_append, List.nil_append]
              · rfl
          · rename_i hrl
            -- Otherwise the left head goes first, also among equals, which is where
            -- stability comes from.
            rw [Bool.not_eq_true] at hrl
            refine ⟨List.pairwise_cons.mpr ⟨fun x hx => ?_, hleft.sorted⟩, fun v => ?_⟩
            · rcases mem_mergeUp.mp hx with hx | hx
              · exact hl'.1 x hx
              · rcases List.mem_cons.mp hx with rfl | hx
                · exact hrl
                · exact hless.trans l r x hrl (hr'.1 x hx)
            · rw [List.filter_cons, hleft.classes v, List.cons_append, List.filter_cons]

/-- Sorting in two steps: each part first, then the parts appended. -/
theorem Sorts.append_classes {xs xs' ys ys' zs : List α} (h : Sorts less xs ys)
    (h' : Sorts less xs' ys') (hz : Sorts less (ys ++ ys') zs) : Sorts less (xs ++ xs') zs := by
  refine ⟨hz.sorted, fun v => ?_⟩
  rw [hz.classes v, List.filter_append, List.filter_append, h.classes v, h'.classes v]

/-- Merging from the front is stable, whatever the two lists are sorted from. -/
theorem sorts_mergeUp (hless : Consistent less) {xs xs' left right : List α}
    (hl : Sorts less xs left) (hr : Sorts less xs' right) :
    Sorts less (xs ++ xs') (mergeUp less left right) :=
  hl.append_classes hr (sorts_mergeUp_self hless hl.sorted hr.sorted)

/-- Merging from the back is merging from the front by the opposite test, with
    everything turned around. -/
theorem sorts_mergeDown (hless : Consistent less) {xs xs' left right : List α}
    (hl : Sorts less xs left) (hr : Sorts less xs' right) :
    Sorts less (xs ++ xs') (mergeDown less left right) := by
  -- The right list comes first, as everything is turned around twice.
  have h := (sorts_mergeUp hless.flip hr.reverse hl.reverse).reverse
  rw [List.reverse_append, List.reverse_reverse, List.reverse_reverse] at h
  exact h

theorem sorts_mergeShorter (hless : Consistent less) {xs xs' left right : List α}
    (hl : Sorts less xs left) (hr : Sorts less xs' right) :
    Sorts less (xs ++ xs') (mergeShorter less left right) := by
  rw [mergeShorter]
  split
  · exact sorts_mergeUp hless hl hr
  · exact sorts_mergeDown hless hl hr

/-- Both ways of merging are stable, so they agree. -/
theorem mergeDown_eq (hless : Consistent less) {left right : List α}
    (hl : left.Pairwise fun a b => less b a = false)
    (hr : right.Pairwise fun a b => less b a = false) :
    mergeDown less left right = mergeUp less left right :=
  Sorts.unique hless (sorts_mergeDown hless (Sorts.of_sorted hl) (Sorts.of_sorted hr))
    (sorts_mergeUp hless (Sorts.of_sorted hl) (Sorts.of_sorted hr))

/-- What is taken from the front and what remains are merged as the lists. -/
theorem takeMerged_append (less : α → α → Bool) (count : Nat) (ls rs : List α) :
    (takeMerged less count ls rs).1 ++
        mergeUp less (takeMerged less count ls rs).2.1 (takeMerged less count ls rs).2.2 =
      mergeUp less ls rs := by
  induction count generalizing ls rs with
  | zero => rfl
  | succ count ih =>
      rcases ls with _ | ⟨l, ls⟩
      · rfl
      rcases rs with _ | ⟨r, rs⟩
      · rfl
      -- Taking and merging make the same comparison.
      rw [takeMerged, mergeUp_cons]
      split
      · simp only [List.cons_append, ih]
      · simp only [List.cons_append, ih]

theorem takeMerged_length_le (less : α → α → Bool) (count : Nat) (ls rs : List α) :
    (takeMerged less count ls rs).1.length ≤ count := by
  induction count generalizing ls rs with
  | zero => exact Nat.le_refl 0
  | succ count ih =>
      rcases ls with _ | ⟨l, ls⟩
      · exact Nat.zero_le _
      rcases rs with _ | ⟨r, rs⟩
      · exact Nat.zero_le _
      rw [takeMerged]
      split
      · exact Nat.succ_le_succ (ih _ _)
      · exact Nat.succ_le_succ (ih _ _)

/-- As many elements are taken as are asked for if none of the lists is used up. -/
theorem takeMerged_length (less : α → α → Bool) (count : Nat) (ls rs : List α)
    (hl : (takeMerged less count ls rs).2.1 ≠ []) (hr : (takeMerged less count ls rs).2.2 ≠ []) :
    (takeMerged less count ls rs).1.length = count := by
  induction count generalizing ls rs with
  | zero => rfl
  | succ count ih =>
      rcases ls with _ | ⟨l, ls⟩
      · -- A list that is used up was excluded.
        exact absurd rfl hl
      rcases rs with _ | ⟨r, rs⟩
      · exact absurd rfl hr
      rw [takeMerged] at hl hr ⊢
      split at hl
      · rename_i h
        rw [if_pos h] at hr ⊢
        exact congrArg (· + 1) (ih _ _ hl hr)
      · rename_i h
        rw [if_neg h] at hr ⊢
        exact congrArg (· + 1) (ih _ _ hl hr)

/-- If a property tells the lists apart, it tells what is taken of each. -/
theorem filter_takeMerged (less : α → α → Bool) {p q : α → Bool} (hpq : ∀ x, q x = !p x)
    (count : Nat) {ls rs : List α}
    (hl : ∀ x ∈ ls, p x = true) (hr : ∀ x ∈ rs, q x = true) :
    (takeMerged less count ls rs).1.filter p ++ (takeMerged less count ls rs).2.1 = ls ∧
      (takeMerged less count ls rs).1.filter q ++ (takeMerged less count ls rs).2.2 = rs := by
  have hM := takeMerged_append less count ls rs
  rcases takeMerged_spec less count ls rs with ⟨as, bs, ha, hb, -⟩
  have hl' : ∀ x ∈ (takeMerged less count ls rs).2.1, p x = true := fun x hx =>
    hl x (by rw [ha]; exact List.mem_append_right as hx)
  have hr' : ∀ x ∈ (takeMerged less count ls rs).2.2, q x = true := fun x hx =>
    hr x (by rw [hb]; exact List.mem_append_right bs hx)
  -- Merging what is left gives the merged list, and each side can be told from the other.
  have hnot : ∀ xs : List α, (∀ x ∈ xs, q x = true) → ∀ x ∈ xs, p x = false := by
    intro xs h x hx
    have := h x hx
    rwa [hpq, Bool.not_eq_true'] at this
  have hnot' : ∀ xs : List α, (∀ x ∈ xs, p x = true) → ∀ x ∈ xs, q x = false := by
    intro xs h x hx
    rw [hpq, h x hx]
    rfl
  constructor
  · -- Of the merged list the property picks one list, and of what is left too.
    have hp := congrArg (List.filter p) hM
    rw [List.filter_append, filter_mergeUp_left (hnot _ hr'), filter_mergeUp_left (hnot _ hr),
      List.filter_eq_self.mpr hl, List.filter_eq_self.mpr hl'] at hp
    exact hp
  · have hq := congrArg (List.filter q) hM
    rw [List.filter_append, filter_mergeUp_right (hnot' _ hl'), filter_mergeUp_right (hnot' _ hl),
      List.filter_eq_self.mpr hr, List.filter_eq_self.mpr hr'] at hq
    exact hq

/-- A list is split into what has a property and what has not, if it is too
    short to be mixed or only one kind is there. -/
theorem filter_append_filter {p q : α → Bool} (hpq : ∀ x, q x = !p x) {xs : List α}
    (h : xs.length ≤ 1 ∨ xs.filter p = [] ∨ xs.filter q = []) :
    xs.filter p ++ xs.filter q = xs := by
  have hfun : q = fun x => !p x := funext hpq
  have hlen := List.length_eq_length_filter_add (l := xs) p
  rw [← hfun] at hlen
  rcases h with h | h | h
  · rcases xs with _ | ⟨x, _ | ⟨y, xs⟩⟩
    · rfl
    · rw [hfun]
      rcases hx : p x with _ | _
      · simp [hx]
      · simp [hx]
    · simp at h
  · -- A sub-list of full length is the list.
    rw [h] at hlen ⊢
    rw [List.nil_append]
    rw [List.length_nil, Nat.zero_add] at hlen
    exact List.filter_sublist.eq_of_length hlen.symm
  · rw [h] at hlen ⊢
    rw [List.append_nil]
    rw [List.length_nil, Nat.add_zero] at hlen
    exact List.filter_sublist.eq_of_length hlen.symm

/-- What is left between what is taken from the two ends, of the elements for
    which a property holds. -/
theorem take_rest {p : α → Bool} {front mid back left rest : List α} {start : Nat}
    (hmerged : (front ++ mid ++ back).filter p = left) (hfront : front.filter p ++ rest = left)
    (hback : (back.filter p).length + start = left.length) :
    left.length ≤ rest.length + start ∧
      rest.take (rest.length + start - left.length) = mid.filter p := by
  rw [List.append_assoc, List.filter_append, ← hfront, List.append_cancel_left_eq,
    List.filter_append] at hmerged
  have hlen := congrArg List.length hmerged
  rw [List.length_append] at hlen
  have hall := congrArg List.length hfront
  rw [List.length_append] at hall
  refine ⟨by omega, ?_⟩
  -- Counting from both ends leaves what is in the middle.
  have hcount : rest.length + start - left.length = (mid.filter p).length := by omega
  rw [hcount, ← hmerged, List.take_left]

/-- If a property tells two sorted lists apart, merging them from both ends is
    merging them from the front. -/
theorem mergeHalves_eq_of_sides (hless : Consistent less) {p q : α → Bool}
    (hpq : ∀ x, q x = !p x) {left right : List α} (hl : ∀ x ∈ left, p x = true)
    (hr : ∀ x ∈ right, q x = true) (hleft : left.Pairwise fun a b => less b a = false)
    (hright : right.Pairwise fun a b => less b a = false) :
    mergeHalves less left right = some (mergeUp less left right) := by
  have hqp : ∀ x, p x = !q x := fun x => by rw [hpq, Bool.not_not]
  have hleft' : ∀ x ∈ left.reverse, p x = true := fun x hx => hl x (List.mem_reverse.mp hx)
  have hright' : ∀ x ∈ right.reverse, q x = true := fun x hx => hr x (List.mem_reverse.mp hx)
  have hlength := (perm_mergeUp less left right).length_eq
  rw [List.length_append] at hlength
  -- Each side can be picked out of the merged list.
  have hp : (mergeUp less left right).filter p = left := by
    rw [filter_mergeUp_left, List.filter_eq_self.mpr hl]
    intro x hx
    rw [hqp, hr x hx]
    rfl
  have hq : (mergeUp less left right).filter q = right := by
    rw [filter_mergeUp_right, List.filter_eq_self.mpr hr]
    intro x hx
    rw [hpq, hl x hx]
    rfl
  have hdown := mergeDown_eq hless hleft hright
  rw [mergeHalves]
  generalize hhalf : (left.length + right.length) / 2 = half
  -- What is taken from the front is the front of the merged list.
  have hfront := takeMerged_append less half left right
  have hfrontMax := takeMerged_length_le less half left right
  have hfrontFull := takeMerged_length less half left right
  have hfrontParts := filter_takeMerged less hpq half hl hr
  generalize takeMerged less half left right = taken at *
  rcases taken with ⟨front, leftRest, rightRest⟩
  -- What is taken from the back is the back of it.
  have hback := takeMerged_append (fun a b => less b a) half right.reverse left.reverse
  have hbackMax := takeMerged_length_le (fun a b => less b a) half
    right.reverse left.reverse
  have hbackFull := takeMerged_length (fun a b => less b a) half
    right.reverse left.reverse
  have hbackParts := filter_takeMerged (fun a b => less b a) hqp half
    hright' hleft'
  rw [mergeDown, ← hback, List.reverse_append] at hdown
  generalize takeMerged (fun a b => less b a) half right.reverse left.reverse = taken at *
  rcases taken with ⟨back, rightStart, leftStart⟩
  simp only at *
  rw [← hfront] at hdown hlength hp hq ⊢
  generalize mergeUp less leftRest rightRest = rest at *
  generalize (mergeUp (fun a b => less b a) rightStart leftStart).reverse = start at *
  -- Each half is no longer than half of the whole, so the back lies behind the front.
  have hsum : front.length + back.length ≤ left.length + right.length := by omega
  have hlen := congrArg List.length hdown
  rw [List.length_append, List.length_append, List.length_reverse] at hlen
  rw [List.length_append] at hlength
  have hsuffix : back.reverse <:+ rest :=
    List.suffix_of_suffix_length_le ⟨start, hdown⟩ ⟨front, rfl⟩
      (by rw [List.length_reverse]; omega)
  rcases hsuffix with ⟨mid, rfl⟩
  rw [← List.append_assoc] at hp hq
  -- Of each side, what is in the back and what is left of it from the back make up the
  -- side.
  have hbackLeft := congrArg List.length hbackParts.2
  have hbackRight := congrArg List.length hbackParts.1
  rw [List.length_append, List.length_reverse, ← List.length_reverse, ← List.filter_reverse]
    at hbackLeft hbackRight
  have hleftRest := take_rest hp hfrontParts.1 hbackLeft
  have hrightRest := take_rest hq hfrontParts.2 hbackRight
  -- So the two halves do not meet before everything is taken.
  rw [if_pos ⟨hleftRest.1, hrightRest.1⟩, hleftRest.2, hrightRest.2, List.append_assoc front,
    List.append_assoc front]
  refine congrArg some (congrArg (front ++ ·) (congrArg (· ++ back.reverse)
    (filter_append_filter hpq ?_)))
  have hleftLength := congrArg List.length hfrontParts.1
  have hrightLength := congrArg List.length hfrontParts.2
  rw [List.length_append] at hleftLength hrightLength
  -- One end stops early only where one of the lists is used up.
  by_cases hfull : leftRest.length = 0 ∨ leftStart.length = 0
  · have hcount : leftRest.length + leftStart.length - left.length = 0 := by omega
    rw [hcount, List.take_zero] at hleftRest
    exact .inr (.inl hleftRest.2.symm)
  by_cases hfull' : rightRest.length = 0 ∨ rightStart.length = 0
  · have hcount : rightRest.length + rightStart.length - right.length = 0 := by omega
    rw [hcount, List.take_zero] at hrightRest
    exact .inr (.inr hrightRest.2.symm)
  simp only [not_or, List.length_eq_zero_iff] at hfull hfull'
  have hfrontLength := hfrontFull hfull.1 hfull'.1
  have hbackLength := hbackFull hfull'.2 hfull.2
  rw [List.length_append, List.length_reverse] at hlength
  exact .inl (by omega)

/-- Merging two sorted lists from both ends is merging them from the front. -/
theorem mergeHalves_eq (hless : Consistent less) {left right : List α}
    (hleft : left.Pairwise fun a b => less b a = false)
    (hright : right.Pairwise fun a b => less b a = false) :
    mergeHalves less left right = some (mergeUp less left right) := by
  -- Equal elements of the two lists are told apart by where they come from.
  have hl := mergeHalves_map (Sum.elim id id) less (left.map Sum.inl) (right.map Sum.inr)
  have hr := mergeUp_map (Sum.elim id id) less (left.map Sum.inl) (right.map Sum.inr)
  have hpulled : Consistent (pulled (Sum.elim id id : α ⊕ α → α) less) :=
    ⟨fun a b => hless.asymm _ _, fun a b c => hless.trans _ _ _⟩
  have hinl : ∀ x ∈ left.map (Sum.inl : α → α ⊕ α), x.isLeft = true := by
    intro x hx
    rcases List.mem_map.mp hx with ⟨a, -, rfl⟩
    rfl
  have hinr : ∀ x ∈ right.map (Sum.inr : α → α ⊕ α), x.isRight = true := by
    intro x hx
    rcases List.mem_map.mp hx with ⟨a, -, rfl⟩
    rfl
  -- The mark is a property that holds of one list and of nothing in the other.
  have hnot : ∀ x : α ⊕ α, x.isRight = !x.isLeft := by
    rintro (a | a)
    · rfl
    · rfl
  have hsides := mergeHalves_eq_of_sides hpulled hnot hinl hinr
    (List.pairwise_map.mpr hleft) (List.pairwise_map.mpr hright)
  rw [hsides, Option.map_some, ← hr, List.map_map, List.map_map] at hl
  have hid : List.map (Sum.elim id id ∘ Sum.inl) left = left := List.map_id left
  have hid' : List.map (Sum.elim id id ∘ Sum.inr) right = right := List.map_id right
  rw [hid, hid'] at hl
  exact hl

/-- Merging from both ends succeeds on sorted halves, and is stable. -/
theorem sortsTo_mergeHalves (hless : Consistent less) {xs xs' left right : List α}
    (hl : Sorts less xs left) (hr : Sorts less xs' right) :
    SortsTo less (xs ++ xs') (mergeHalves less left right) :=
  ⟨_, mergeHalves_eq hless hl.sorted hr.sorted, sorts_mergeUp hless hl hr⟩

end Sorting

end DocQuery
