import DocQuery.Text.Cut
import DocQuery.Value.Basic

/-!
# Dotted Paths

A path names a value inside a document by the names to follow, one after the
other. Written, the names are separated by points, so a path has at least one
name, and names may be empty.

Reading a path crosses arrays: where a name is looked up in an array, it is
looked up in each of its elements, and the values found form an array again.
Writing and removing do not cross arrays. Writing puts a fresh document in the
place of anything that is not one.

## Main definitions

* `Path.ofString`: The names of a written path.
* `Value.at?`, `Document.at?`: The value at a path.
* `Document.setAt`: Put a value at a path.
* `Document.removeAt`: Remove what is at a path.

## Theorems

* `Value.at?_document`: A name in a document leads to the value under it.
* `Value.at?_array`: A name in an array leads to the values found in its
  elements.
-/

namespace DocQuery

/-- The names to follow from a document to a value inside it. -/
abbrev Path := List String

namespace Path

/-- The names of a path that is written with points between them. -/
def ofString (s : String) : Path :=
  (Text.pieces (· == '.') s.toList).map String.ofList

/-- Neither path leads through the place of the other. -/
def Diverges (p q : Path) : Prop :=
  ¬ p <+: q ∧ ¬ q <+: p

end Path

mutual

/-- The value at a path inside a value. -/
def Value.at? : Value → Path → Option Value
  | v, [] => some v
  | .document fields, name :: rest => Value.inFields? fields name rest
  | .array items, name :: rest => some (.array (Value.inItems items name rest))
  | _, _ :: _ => none

/-- The value at a path inside named values. -/
def Value.inFields? : List (String × Value) → String → Path → Option Value
  | [], _, _ => none
  | (k, v) :: fields, name, rest =>
    if k = name then v.at? rest else Value.inFields? fields name rest

/-- The values at a path inside each of a list of values, where there is
    one. -/
def Value.inItems : List Value → String → Path → List Value
  | [], _, _ => []
  | v :: items, name, rest =>
    match v.at? (name :: rest) with
    | some w => w :: Value.inItems items name rest
    | none => Value.inItems items name rest

end

namespace Value

theorem inFields?_eq (fields : Document) (name : String) (rest : Path) :
    inFields? fields name rest = (Document.get? fields name).bind fun v => v.at? rest := by
  induction fields with
  | nil => rfl
  | cons p fields ih =>
      rcases p with ⟨k, v⟩
      by_cases h : k = name <;> simp [inFields?, Document.get?, h, ih]

theorem inItems_eq (items : List Value) (name : String) (rest : Path) :
    inItems items name rest = items.filterMap fun v => v.at? (name :: rest) := by
  induction items with
  | nil => rfl
  | cons v items ih =>
      rw [inItems, List.filterMap_cons, ih]
      cases v.at? (name :: rest) <;> rfl

theorem at?_nil (v : Value) : v.at? [] = some v := by
  cases v <;> rfl

theorem at?_document (fields : Document) (name : String) (rest : Path) :
    (Value.document fields).at? (name :: rest) =
      (Document.get? fields name).bind fun v => v.at? rest := by
  rw [at?, inFields?_eq]

theorem at?_array (items : List Value) (name : String) (rest : Path) :
    (Value.array items).at? (name :: rest) =
      some (.array (items.filterMap fun v => v.at? (name :: rest))) := by
  rw [at?, inItems_eq]

end Value

namespace Document

/-- The value at a path inside a document. -/
def at? (d : Document) (path : Path) : Option Value :=
  (Value.document d).at? path

/-- The document under a name, empty if there is none. -/
def child (d : Document) (name : String) : Document :=
  match get? d name with
  | some (.document fields) => fields
  | _ => []

/-- Put a value at a path. Documents are made on the way where there are
    none. -/
def setAt : Document → Path → Value → Document
  | d, [], _ => d
  | d, [name], value => insert d name value
  | d, name :: next :: rest, value =>
    insert d name (.document (setAt (child d name) (next :: rest) value))

/-- Remove what is at a path, if documents lead to it. -/
def removeAt : Document → Path → Document
  | d, [] => d
  | d, [name] => erase d name
  | d, name :: next :: rest =>
    match get? d name with
    | some (.document fields) => insert d name (.document (removeAt fields (next :: rest)))
    | _ => d

end Document

end DocQuery
