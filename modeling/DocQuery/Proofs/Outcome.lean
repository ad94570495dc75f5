import Mathlib.Data.List.Basic
import Mathlib.Data.List.Forall2
import Mathlib.Tactic.Common

/-!
# Lists of Outcomes

A step that can go wrong, taken on each element of a list: it goes through
exactly if it goes through on every element, and the results stand in order.

The steps are those of the pipeline and of decoding, whose outcomes are an
`Except` and an `Option`. A list of steps is `List.mapM` in both, and for both
it is described by a relation between the elements and the results, place by
place (`List.Forall₂`). With that, what a whole list does is a matter of
induction over the relation, and the monad is not seen again.

## Theorems

* `mapM_eq_some_iff`, `exists_of_mem_mapM_some`, `mapM_eq_ok_iff`: Each result is
  that of its element.
* `mapM_some`, `mapM_ok`: Where every step has a known result.
* `mapM_eq_none_iff`: Where there is none.
* `mapM_flatMap`, `forall₂_of_mapM_eq_some`: Steps on lists of lists, and two steps
  on one list.
* `exists_mapM_ok_iff`: When there is a result at all.
-/

namespace DocQuery

variable {ε α β : Type}

/-- A list of steps goes through with results that belong to the elements one by
    one. -/
theorem mapM_eq_some_iff (f : α → Option β) (xs : List α) (ys : List β) :
    xs.mapM f = some ys ↔ List.Forall₂ (fun x y => f x = some y) xs ys := by
  constructor
  · intro h
    induction xs generalizing ys with
    | nil =>
        cases h
        exact .nil
    | cons x xs ih =>
        rw [List.mapM_cons] at h
        -- A step without a result would have ended the list.
        rcases hx : f x with _ | y
        · rw [hx] at h
          cases h
        rcases hxs : xs.mapM f with _ | zs
        · rw [hx, hxs] at h
          cases h
        · rw [hx, hxs] at h
          cases h
          exact .cons hx (ih zs hxs)
  · intro h
    induction h with
    | nil => rfl
    | cons hx _ ih =>
        rw [List.mapM_cons, hx, ih]
        rfl

/-- If every step is known to go through, so does the list. -/
theorem mapM_some (f : α → Option β) (g : α → β) (xs : List α)
    (h : ∀ x ∈ xs, f x = some (g x)) : xs.mapM f = some (xs.map g) :=
  (mapM_eq_some_iff f xs _).mpr (List.forall₂_map_right_iff.mpr (List.forall₂_same.mpr h))

/-- A list of steps fails where one of them does. -/
theorem mapM_eq_none_iff (f : α → Option β) (xs : List α) :
    xs.mapM f = none ↔ ∃ x ∈ xs, f x = none := by
  induction xs with
  | nil => simp
  | cons x xs ih =>
      rw [List.mapM_cons, List.exists_mem_cons_iff, ← ih]
      rcases f x with _ | y
      · exact iff_of_true rfl (Or.inl rfl)
      · rcases xs.mapM f with _ | ys
        · exact iff_of_true rfl (Or.inr rfl)
        · exact iff_of_false nofun (by simp)

/-- Each result is that of some element. -/
theorem exists_of_mem_mapM_some (f : α → Option β) (xs : List α) (ys : List β)
    (h : xs.mapM f = some ys) (y : β) (hy : y ∈ ys) : ∃ x ∈ xs, f x = some y := by
  rw [mapM_eq_some_iff] at h
  induction h with
  | nil => cases hy
  | cons hx _ ih =>
      rcases List.mem_cons.mp hy with rfl | hy
      · exact ⟨_, List.mem_cons_self, hx⟩
      · rcases ih hy with ⟨w, hw, hfw⟩
        exact ⟨w, List.mem_cons_of_mem _ hw, hfw⟩

/-- A step on all elements of several lists is taken list by list. -/
theorem mapM_flatMap {γ : Type} (f : α → List β) (g : β → Option γ) (xs : List α) :
    (xs.flatMap f).mapM g = (xs.mapM fun x => (f x).mapM g).map List.flatten := by
  induction xs with
  | nil => rfl
  | cons x xs ih =>
      rw [List.flatMap_cons, List.mapM_append, ih, List.mapM_cons]
      rcases (f x).mapM g with _ | group
      · rfl
      · rcases xs.mapM fun x => (f x).mapM g with _ | groups
        · rfl
        · rfl

/-- The results of two steps on the same elements belong together. -/
theorem forall₂_of_mapM_eq_some {γ : Type} (f : α → Option β) (g : α → Option γ)
    (R : β → γ → Prop) (xs : List α) (ys : List β) (zs : List γ) (hf : xs.mapM f = some ys)
    (hg : xs.mapM g = some zs)
    (h : ∀ x ∈ xs, ∀ y z, f x = some y → g x = some z → R y z) : List.Forall₂ R ys zs := by
  rw [mapM_eq_some_iff] at hf hg
  induction hf generalizing zs with
  | nil =>
      cases hg
      exact .nil
  | cons hx _ ih =>
      rcases hg with _ | ⟨hy, hys⟩
      rw [List.forall_mem_cons] at h
      exact .cons (h.1 _ _ hx hy) (ih _ hys h.2)

/-- The same for steps that can fail. -/
theorem mapM_eq_ok_iff (f : α → Except ε β) (xs : List α) (ys : List β) :
    xs.mapM f = .ok ys ↔ List.Forall₂ (fun x y => f x = .ok y) xs ys := by
  constructor
  · intro h
    induction xs generalizing ys with
    | nil =>
        cases h
        exact .nil
    | cons x xs ih =>
        rw [List.mapM_cons] at h
        rcases hx : f x with e | y
        · rw [hx] at h
          cases h
        rcases hxs : xs.mapM f with e | zs
        · rw [hx, hxs] at h
          cases h
        · rw [hx, hxs] at h
          cases h
          exact .cons hx (ih zs hxs)
  · intro h
    induction h with
    | nil => rfl
    | cons hx _ ih =>
        rw [List.mapM_cons, hx, ih]
        rfl

theorem mapM_ok (f : α → Except ε β) (g : α → β) (xs : List α)
    (h : ∀ x ∈ xs, f x = .ok (g x)) : xs.mapM f = .ok (xs.map g) :=
  (mapM_eq_ok_iff f xs _).mpr (List.forall₂_map_right_iff.mpr (List.forall₂_same.mpr h))

theorem exists_mapM_ok_iff (f : α → Except ε β) (xs : List α) :
    (∃ ys, xs.mapM f = .ok ys) ↔ ∀ x ∈ xs, ∃ y, f x = .ok y := by
  constructor
  · rintro ⟨ys, h⟩
    rw [mapM_eq_ok_iff] at h
    induction h with
    | nil =>
        intro x hx
        cases hx
    | cons hx _ ih => exact List.forall_mem_cons.mpr ⟨⟨_, hx⟩, ih⟩
  · intro h
    induction xs with
    | nil => exact ⟨[], rfl⟩
    | cons x xs ih =>
        rcases List.forall_mem_cons.mp h with ⟨⟨y, hy⟩, hxs⟩
        rcases ih hxs with ⟨ys, hys⟩
        refine ⟨y :: ys, ?_⟩
        rw [List.mapM_cons, hy, hys]
        rfl

end DocQuery
