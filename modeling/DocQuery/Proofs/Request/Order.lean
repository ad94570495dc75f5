import DocQuery.Proofs.Outcome
import DocQuery.Proofs.Value.Overlay
import DocQuery.Request.Basic
import Mathlib.Data.List.Basic
import Mathlib.Tactic.Common

/-!
# The Order in Requests

The keys to sort by that a request has are on distinct fields, so the stage
that sorts has the same keys, in the same order and directions.

A field that is named again takes the place of its first key and the direction
of its last one. Adding a key to a list does that, and it never makes two keys
for one field. This is what lets the keys be written as a document, whose names
have to be distinct, and read back from it in the same order.

## Main definitions

* `SortKey.Separate`: Keys on distinct fields.
* `SortKeys.ofKeys`: The keys of a stage.

## Theorems

* `SortKey.separate_collect`, `Request.separate_sort`: The keys of a request.
* `SortKeys.ofDocument_document`: The stage that sorts by some keys.
-/

namespace DocQuery

/-- Keys on distinct fields. -/
def SortKey.Separate (keys : List SortKey) : Prop :=
  (keys.map SortKey.field).Nodup

/-- The keys of a stage that some keys of a request stand for. -/
def SortKeys.ofKeys (keys : List SortKey) : SortKeys :=
  keys.map fun key => (Path.ofString key.field, key.direction)

namespace SortKey

theorem mem_fields_add (keys : List SortKey) (key : SortKey) (name : String) :
    name ∈ (add keys key).map field ↔ name = key.field ∨ name ∈ keys.map field := by
  induction keys with
  | nil => simp [add]
  | cons k keys ih =>
      rw [add]
      by_cases hk : k.field = key.field
      · rw [if_pos hk, List.map_cons, List.map_cons, List.mem_cons, List.mem_cons, hk]
        tauto
      · rw [if_neg hk, List.map_cons, List.map_cons, List.mem_cons, List.mem_cons, ih]
        tauto

/-- A key that is added replaces the one on its field. -/
theorem separate_add (keys : List SortKey) (key : SortKey) (h : Separate keys) :
    Separate (add keys key) := by
  unfold Separate at h ⊢
  induction keys with
  | nil => simp [add]
  | cons k keys ih =>
      rw [List.map_cons, List.nodup_cons] at h
      rw [add]
      by_cases hk : k.field = key.field
      · rw [if_pos hk, List.map_cons, List.nodup_cons, ← hk]
        exact h
      · rw [if_neg hk, List.map_cons, List.nodup_cons, mem_fields_add]
        refine ⟨?_, ih h.2⟩
        rintro (hsame | hmem)
        · exact hk hsame
        · exact h.1 hmem

/-- Keys that are collected one by one are on distinct fields. -/
theorem separate_collect (tokens : List (List Char)) : Separate (collect tokens) := by
  -- From any keys on distinct fields, as the induction adds the keys one after the other.
  have hfold : ∀ keys more : List SortKey, Separate keys → Separate (more.foldl add keys) := by
    intro keys more
    induction more generalizing keys with
    | nil => exact fun h => h
    | cons key more ih =>
        intro h
        exact ih _ (separate_add keys key h)
  exact hfold [] _ List.nodup_nil

theorem separate_filter (keys : List SortKey) (p : SortKey → Bool) (h : Separate keys) :
    Separate (keys.filter p) :=
  h.sublist (List.filter_sublist.map field)

end SortKey

theorem separate_defaultSort : SortKey.Separate defaultSort :=
  List.nodup_singleton _

/-- The keys of a request are on distinct fields, and so is the default one. -/
theorem Request.separate_sort (params : Params) : SortKey.Separate (Request.sort params) := by
  have h := SortKey.separate_collect (listed params "sort")
  unfold Request.sort
  split
  · exact separate_defaultSort
  · exact h

/-- A direction is read back from the value it is written as. -/
theorem Direction.ofValue?_value (direction : Direction) :
    Direction.ofValue? direction.value = some direction := by
  cases direction with
  | ascending => decide
  | descending => decide

/-- The stage that sorts by keys on distinct fields sorts by those keys. -/
theorem SortKeys.ofDocument_document (keys : List SortKey) (h : SortKey.Separate keys) :
    SortKeys.ofDocument (SortKey.document keys) = .ok (SortKeys.ofKeys keys) := by
  -- Distinct names make the document the list of its entries.
  have hdistinct : Document.Distinct (keys.map fun key => (key.field, key.direction.value)) := by
    unfold Document.Distinct Document.keys
    rw [List.map_map]
    exact h
  unfold SortKeys.ofDocument SortKey.document
  rw [Document.ofPairs_of_distinct _ hdistinct, List.mapM_map]
  apply mapM_ok
  intro key _
  simp only [Function.comp_apply, Direction.ofValue?_value]

end DocQuery
