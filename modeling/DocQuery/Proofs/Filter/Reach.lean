import DocQuery.Proofs.Filter.Entries
import DocQuery.Proofs.Value.Path

/-!
# What a Path Reaches

To follow a path is to go from name to name through documents and, where an
array is met before the last name, through each of its elements. A path can
reach many values in this way, each through some number of arrays.

A filter does not follow its path. It reads one value there, in which the values
found in the elements of an array form an array again, and looks at this value
or at its elements. The two ways agree as long as one array is opened in all,
either on the way or at the end. Beneath two arrays, the elements of the value
that is read are arrays themselves, and no filter opens these.

That this is the only difference is shown with the number of arrays on the way
as a part of what it is to reach a value. The tests in question fail on arrays.
So an element of the value that is read can only pass if it was reached through
that one array.

The number of arrays is a part of the relation and not computed from it, since
one path can reach values through different numbers of arrays, in different
elements. A document is no array, so to start from a document instead of its
value makes no difference.

## Main definitions

* `Value.Reaches`: A path leads to a value through a number of arrays.
* `Value.isSingle`: A value that is neither null nor made of others.

## Theorems

* `Value.at?_eq_some_iff`: A value that is read and no array is reached through
  no array.
* `Value.passes_at?_iff`: What a test of the value at a path finds.
* `Filter.read_single_reaches`: What a filter finds that asks for a value.
* `Filter.holds_beneath_arrays`: It does not find all that its path reaches.
-/

namespace DocQuery

namespace Value

/-- A path leads from a value to another one, through a number of arrays that
    are met before its last name. -/
inductive Reaches : Nat → Value → Path → Value → Prop where
  | here (v : Value) : Reaches 0 v [] v
  | field {n : Nat} {fields : Document} {name : String} {rest : Path} {v w : Value}
      (hget : Document.get? fields name = some v) (h : Reaches n v rest w) :
      Reaches n (.document fields) (name :: rest) w
  | element {n : Nat} {items : List Value} {name : String} {rest : Path} {v w : Value}
      (hmem : v ∈ items) (h : Reaches n v (name :: rest) w) :
      Reaches (n + 1) (.array items) (name :: rest) w

theorem reaches_nil_iff (n : Nat) (v w : Value) : Reaches n v [] w ↔ n = 0 ∧ w = v := by
  constructor
  · intro h
    cases h with
    | here => exact ⟨rfl, rfl⟩
  · rintro ⟨rfl, rfl⟩
    exact .here w

/-- Through a document a path goes on from what is under its first name. -/
theorem reaches_document_iff (n : Nat) (fields : Document) (name : String) (rest : Path)
    (w : Value) : Reaches n (.document fields) (name :: rest) w ↔
      ∃ v, Document.get? fields name = some v ∧ Reaches n v rest w := by
  constructor
  · intro h
    cases h with
    | field hget h => exact ⟨_, hget, h⟩
  · rintro ⟨v, hget, h⟩
    exact .field hget h

/-- Through an array it goes on in each element, with the same names. -/
theorem reaches_array_iff (n : Nat) (items : List Value) (name : String) (rest : Path)
    (w : Value) : Reaches n (.array items) (name :: rest) w ↔
      ∃ m, n = m + 1 ∧ ∃ v ∈ items, Reaches m v (name :: rest) w := by
  constructor
  · intro h
    cases h with
    | element hmem h => exact ⟨_, rfl, _, hmem, h⟩
  · rintro ⟨m, rfl, v, hmem, h⟩
    exact .element hmem h

/-- What is reached without an array on the way is what is read. -/
theorem at?_of_reaches (v w : Value) (path : Path) (h : Reaches 0 v path w) :
    v.at? path = some w := by
  induction path generalizing v with
  | nil =>
      rw [at?_nil, ((reaches_nil_iff 0 v w).mp h).2]
  -- No array may be crossed, so only a document leaves a way to go on.
  | cons name rest ih =>
      cases h with
      | field hget h => rw [at?_document, hget, Option.bind_some, ih _ h]

/-- A value that is read at a path and is no array is reached through no
    array. -/
theorem at?_eq_some_iff (v w : Value) (path : Path) (hw : ∀ items, w ≠ .array items) :
    v.at? path = some w ↔ Reaches 0 v path w := by
  refine ⟨fun h => ?_, at?_of_reaches v w path⟩
  induction path generalizing v with
  | nil =>
      rw [at?_nil] at h
      rw [reaches_nil_iff]
      exact ⟨rfl, (Option.some.inj h).symm⟩
  | cons name rest ih =>
      cases v with
      | document fields =>
          rw [at?_document, Option.bind_eq_some_iff] at h
          rcases h with ⟨u, hget, hu⟩
          exact .field hget (ih u hu)
      | array items =>
          -- What is read through an array is an array.
          rw [at?_array] at h
          exact absurd (Option.some.inj h).symm (hw _)
      | _ => cases h

/-- A value passes a test that fails on arrays, or an element of it does. -/
theorem passes_some_iff (test : Value → Bool) (htest : ∀ items, test (.array items) = false)
    (v : Value) : Filter.passes test (some v) = true ↔
      test v = true ∨ ∃ items, v = .array items ∧ ∃ u ∈ items, test u = true := by
  cases v with
  | array items => simp [Filter.passes, htest]
  | _ => simp [Filter.passes]

/-- What a test finds that fails on arrays: a value that the path reaches through
    one array at most, or an element of an array that it reaches through none. -/
theorem passes_at?_iff (test : Value → Bool) (htest : ∀ items, test (.array items) = false)
    (v : Value) (path : Path) : Filter.passes test (v.at? path) = true ↔
      ∃ n w, Reaches n v path w ∧ (n ≤ 1 ∧ test w = true ∨
        n = 0 ∧ ∃ items, w = .array items ∧ ∃ u ∈ items, test u = true) := by
  induction path generalizing v with
  | nil =>
      rw [at?_nil, passes_some_iff test htest]
      simp only [reaches_nil_iff]
      constructor
      · intro h
        exact ⟨0, v, ⟨rfl, rfl⟩, h.imp (And.intro (Nat.zero_le 1)) (And.intro rfl)⟩
      · rintro ⟨n, w, ⟨-, rfl⟩, h⟩
        exact h.imp And.right And.right
  | cons name rest ih =>
      cases v with
      | document fields =>
          simp only [at?_document, reaches_document_iff]
          rcases hget : Document.get? fields name with _ | u
          · simp [Filter.passes]
          · simpa using ih u
      | array items =>
          simp only [at?_array, reaches_array_iff, Filter.passes, List.any_eq_true,
            List.mem_filterMap]
          constructor
          · rintro ⟨w, ⟨v, hmem, hat⟩, hw⟩
            -- The element is no array, so the array that is read was opened for it alone.
            have harray : ∀ items, w ≠ .array items := by
              rintro items rfl
              rw [htest] at hw
              cases hw
            have hreach := (at?_eq_some_iff v w _ harray).mp hat
            exact ⟨1, w, ⟨0, rfl, v, hmem, hreach⟩, .inl ⟨Nat.le_refl 1, hw⟩⟩
          · -- One array is crossed here, so none may be crossed after it.
            rintro ⟨_, w, ⟨m, rfl, v, hmem, hreach⟩, ⟨hle, hw⟩ | ⟨hzero, -⟩⟩
            · have hm : m = 0 := by omega
              subst hm
              exact ⟨w, ⟨v, hmem, at?_of_reaches v w _ hreach⟩, hw⟩
            · omega
      | _ =>
          -- No name leads anywhere from here.
          constructor
          · intro h
            cases h
          · rintro ⟨n, w, h, -⟩
            cases h

/-- A value that is neither null nor made of other values. -/
def isSingle : Value → Bool
  | null | array _ | document _ => false
  | _ => true

/-- No array is equal to a value that is not made of others. -/
theorem same_array_of_isSingle (v : Value) (hv : v.isSingle = true) (items : List Value) :
    (array items).same v = false := by
  cases v with
  | array _ => cases hv
  | _ => rfl

end Value

namespace Filter

/-- To ask for a value that is not made of others is to test the value at the
    path. -/
theorem equal_eq_passes (found : Option Value) (v : Value) (hv : v.isSingle = true) :
    equal found v = passes (fun u => u.same v) found := by
  -- What is missing equals null only, which is not asked for.
  rcases found with _ | w
  · cases v with
    | null => cases hv
    | _ => rfl
  · cases w with
    | array items =>
        cases v with
        | array _ => cases hv
        | _ => rfl
    | _ =>
        cases v with
        | _ => rfl

/-- A filter that asks for a value at a path finds what the path reaches through
    one array at most, and what is in an array that it reaches through none. -/
theorem read_single_reaches (name : String) (v : Value) (hv : v.isSingle = true) :
    (isOperator name = true → ¬Readable [(name, v)]) ∧
      (isOperator name = false → ∃ f, read [(name, v)] = .ok f ∧
        ∀ d, f.holds d = true ↔
          ∃ n w, Value.Reaches n (.document d) (Path.ofString name) w ∧
            (n ≤ 1 ∧ w.same v = true ∨
              n = 0 ∧ ∃ items, w = .array items ∧ ∃ u ∈ items, u.same v = true)) := by
  constructor
  · intro hname
    apply not_readable_of_isOperator name v hname
    rintro items rfl
    cases hv
  · intro hname
    -- A document would be read as conditions, and the value is none.
    have hfield : readField name v = .ok (equals (Path.ofString name) v) := by
      cases v with
      | document fields => cases hv
      | _ => rfl
    refine ⟨equals (Path.ofString name) v, ?_, fun d => ?_⟩
    · rw [read_singleton, readEntry_of_not_isOperator name v hname, hfield]
    · rw [holds, equal_eq_passes _ v hv]
      exact Value.passes_at?_iff _ (Value.same_array_of_isSingle v hv) _ _

/-- An order with two items, each of which has several tags. -/
def taggedOrder : Document :=
  [("_id", .int32 1),
   ("tags", .array [.string "gift"]),
   ("items", .array
     [.document [("sku", .string "a1"), ("tags", .array [.string "red", .string "blue"])],
      .document [("sku", .string "b2"), ("tags", .array [.string "green"])]])]

/-- The number of an item is found in the order that has the item. -/
theorem read_single_reaches_sku :
    (Value.string "b2").isSingle = true ∧ isOperator "items.sku" = false ∧
      ∃ f, read [("items.sku", .string "b2")] = .ok f ∧ f.holds taggedOrder = true := by
  have hsingle : (Value.string "b2").isSingle = true := rfl
  have hname : isOperator "items.sku" = false := by decide
  rcases (read_single_reaches "items.sku" (.string "b2") hsingle).2 hname with ⟨f, hf, hholds⟩
  refine ⟨hsingle, hname, f, hf, (hholds taggedOrder).mpr ?_⟩
  have hpath : Path.ofString "items.sku" = ["items", "sku"] := by decide
  rw [hpath]
  -- The number of the second item is reached through the array of items.
  refine ⟨1, .string "b2", .field rfl (.element (List.mem_cons_of_mem _ List.mem_cons_self)
    (.field rfl (.here _))), .inl ⟨Nat.le_refl 1, by decide⟩⟩

/-- The path of the tags of items reaches an array with the tag that the filter
    asks for, but through the array of items, so the filter does not find it. -/
theorem holds_beneath_arrays :
    (∃ n tags, Value.Reaches n (.document taggedOrder) (Path.ofString "items.tags") (.array tags) ∧
        ∃ u ∈ tags, u.same (.string "red") = true) ∧
      ∃ f, read [("items.tags", .string "red")] = .ok f ∧ f.holds taggedOrder = false := by
  have hpath : Path.ofString "items.tags" = ["items", "tags"] := by decide
  constructor
  · rw [hpath]
    exact ⟨1, [.string "red", .string "blue"],
      .field rfl (.element List.mem_cons_self (.field rfl (.here _))),
      .string "red", List.mem_cons_self, by decide⟩
  · refine ⟨equals (Path.ofString "items.tags") (.string "red"), ?_, by decide +kernel⟩
    rw [read_singleton, readEntry_of_not_isOperator _ _ (by decide)]
    rfl

end Filter

end DocQuery
