import DocQuery.Pipeline.Join
import DocQuery.Proofs.Value.Sound

/-!
# Values that Join

When the value of a document joins that of another one. An array is never
compared as a whole. On the document's own side it stands for all that is in it
at any depth, on the other side for its elements alone, so an array among these
joins nothing.

The two sides differ because they are computed differently. The function that
joins goes down into the arrays on its own side, one within another, and asks at
every leaf whether the other side has an equal value; there it looks at the
elements once. The relations `HasLeaf` and `Offers` say what the two searches
come across, so that results about joined documents can be stated without the
functions that search.

## Main definitions

* `Value.HasLeaf`: What a value stands for on the document's own side.
* `Value.Offers`: What a value stands for on the other side.
* `Value.Meets`: Do two values have something equal to offer?

## Theorems

* `Value.joins_iff`: Values join exactly if they meet.
-/

namespace DocQuery

namespace Value

/-- A value that is not an array has itself as its only leaf; the leaves of an
    array are those of its elements. -/
inductive HasLeaf : Value → Value → Prop where
  | self {v : Value} (h : ∀ items, v ≠ .array items) : HasLeaf v v
  | element {items : List Value} {v w : Value} (hmem : v ∈ items) (h : HasLeaf v w) :
      HasLeaf (.array items) w

/-- A value that is not an array offers itself, and an array offers each of its
    elements. -/
inductive Offers : Value → Value → Prop where
  | self {v : Value} (h : ∀ items, v ≠ .array items) : Offers v v
  | element {items : List Value} {w : Value} (hmem : w ∈ items) : Offers (.array items) w

/-- A leaf of the first value equals something that the second one offers. -/
def Meets (own foreign : Value) : Prop :=
  ∃ v w, own.HasLeaf v ∧ foreign.Offers w ∧ v.same w = true

/-- The leaves of an array are those of its elements. -/
theorem hasLeaf_array_iff (items : List Value) (w : Value) :
    (array items).HasLeaf w ↔ ∃ v ∈ items, v.HasLeaf w := by
  constructor
  · intro h
    cases h with
    | self h => exact absurd rfl (h items)
    | element hmem h => exact ⟨_, hmem, h⟩
  · rintro ⟨v, hmem, h⟩
    exact .element hmem h

/-- What is not an array is its own and only leaf. -/
theorem hasLeaf_iff_eq (v w : Value) (h : ∀ items, v ≠ .array items) : v.HasLeaf w ↔ w = v := by
  constructor
  · intro hleaf
    cases hleaf with
    | self _ => rfl
    | element _ _ => exact absurd rfl (h _)
  · rintro rfl
    exact .self h

/-- A leaf joins a value that offers something equal to it. -/
theorem joinsForeign_iff (v foreign : Value) :
    joinsForeign v foreign = true ↔ ∃ w, foreign.Offers w ∧ v.same w = true := by
  unfold joinsForeign
  split
  · rename_i items
    rw [List.any_eq_true]
    constructor
    · rintro ⟨w, hmem, hsame⟩
      exact ⟨w, .element hmem, hsame⟩
    · rintro ⟨w, hoffers, hsame⟩
      cases hoffers with
      | self h => exact absurd rfl (h items)
      | element hmem => exact ⟨w, hmem, hsame⟩
  · rename_i hleaf
    constructor
    · intro hsame
      exact ⟨foreign, .self hleaf, hsame⟩
    · rintro ⟨w, hoffers, hsame⟩
      cases hoffers with
      | self _ => exact hsame
      | element _ => exact absurd rfl (hleaf _)

/-- An array joins a value if one of its elements does. -/
theorem joinsAny_iff (items : List Value) (foreign : Value) :
    joinsAny items foreign = true ↔ ∃ v ∈ items, joins v foreign = true := by
  induction items with
  | nil => simp [joinsAny]
  | cons v items ih => rw [joinsAny, Bool.or_eq_true, ih, List.exists_mem_cons_iff]

/-- An array meets a value if one of its elements does. -/
theorem meets_array_iff (items : List Value) (foreign : Value) :
    (array items).Meets foreign ↔ ∃ v ∈ items, v.Meets foreign := by
  unfold Meets
  simp only [hasLeaf_array_iff]
  constructor
  · rintro ⟨u, w, ⟨v, hmem, hleaf⟩, hoffers, hsame⟩
    exact ⟨v, hmem, u, w, hleaf, hoffers, hsame⟩
  · rintro ⟨v, hmem, u, w, hleaf, hoffers, hsame⟩
    exact ⟨u, w, ⟨v, hmem, hleaf⟩, hoffers, hsame⟩

/-- What is not an array meets a value that offers something equal to it. -/
theorem meets_iff_of_leaf (v foreign : Value) (h : ∀ items, v ≠ .array items) :
    v.Meets foreign ↔ ∃ w, foreign.Offers w ∧ v.same w = true := by
  unfold Meets
  simp only [hasLeaf_iff_eq v _ h]
  exact exists_comm.trans (exists_congr fun w => exists_eq_left)

/-- Values join exactly if they meet. -/
theorem joins_iff (own foreign : Value) : joins own foreign = true ↔ own.Meets foreign := by
  have hother : ∀ v : Value, (∀ items, v ≠ .array items) →
      (joins v foreign = true ↔ v.Meets foreign) := by
    intro v h
    rw [joins.eq_2 v foreign h, joinsForeign_iff, meets_iff_of_leaf v foreign h]
  -- Documents within a value are compared as they are, so only the arrays need the
  -- induction.
  induction own using pathInduction with
  | array items ih =>
      rw [joins, joinsAny_iff, meets_array_iff]
      exact exists_congr fun v => and_congr_right fun hmem => ih v hmem
  | document fields _ => exact hother _ nofun
  | leaf v hleaf =>
      refine hother v ?_
      rintro items rfl
      -- Nothing is found in a leaf on any path, but in an array there is always a list.
      have hnone := hleaf "" []
      rw [at?_array] at hnone
      cases hnone

instance (own foreign : Value) : Decidable (own.Meets foreign) :=
  decidable_of_iff _ (joins_iff own foreign)

-- An array within an array counts on the document's own side only.
example : (array [.array [.int32 1]]).Meets (.int32 1) := by decide

example : ¬(int32 1).Meets (.array [.array [.int32 1]]) := by decide

end Value

end DocQuery
