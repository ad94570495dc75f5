import DocQuery.Endpoint.Relation
import DocQuery.Json.Basic

/-!
# Profiles of Collections

What a collection shows to requests: the fields to search in, the relations
that can be expanded, the fields that are hidden and the fields to describe.

A profile is also written as JSON. Reading takes objects by name and arrays by
position, and fills in what has a default; names that mean nothing are
ignored, a value of another kind is refused.

## Main definitions

* `Profile`: What a collection shows.
* `Profile.isHidden`: Is a path hidden?
* `Profile.relation?`: The relation with a name.
* `Profile.ofJson?`, `toJson`: Profiles as JSON.
-/

namespace DocQuery

/-- What a collection shows to requests. -/
structure Profile where
  name : String
  searchFields : List String := []
  relations : List Relation := []
  hiddenFields : List String := []
  fieldNames : List String := []
deriving DecidableEq

namespace Profile

/-- Is a path a field or something beneath it? -/
def covers (field path : String) : Bool :=
  match field.toList.isPrefixOf? path.toList with
  | some [] => true
  -- A longer name that only starts like the field is another field.
  | some (c :: _) => c == '.'
  | none => false

/-- Is a path hidden, or beneath a hidden one? -/
def isHidden (p : Profile) (path : String) : Bool :=
  p.hiddenFields.any fun field => covers field path

/-- The relation with a name. -/
def relation? (p : Profile) (name : String) : Option Relation :=
  p.relations.find? fun r => r.name == name

/-- The members of a record with the given names, `none` where there is
    none. -/
def members? (names : List String) : Json → Option (List (Option Json))
  | .object fields => some (names.map (Json.field? fields))
  | .array items =>
    if items.length ≤ names.length then
      some (items.map some ++ List.replicate (names.length - items.length) none)
    else none
  | _ => none

/-- A text. -/
def stringOf? : Json → Option String
  | .string s => some s
  | _ => none

/-- A truth value. -/
def boolOf? : Json → Option Bool
  | .bool b => some b
  | _ => none

/-- A list of what can be read. -/
def listOf? {α : Type} (read? : Json → Option α) : Json → Option (List α)
  | .array items => items.mapM read?
  | _ => none

/-- What can be read from a member, or a default without one. -/
def orDefault {α : Type} (default : α) (read? : Json → Option α) : Option Json → Option α
  | some j => read? j
  | none => some default

/-- The relation that a JSON value stands for. -/
def relationOf? (j : Json) : Option Relation := do
  match ← members? ["name", "from", "localField", "foreignField", "single"] j with
  | [name, collection, localField, foreignField, single] => do
    let name ← name.bind stringOf?
    let collection ← collection.bind stringOf?
    let localField ← localField.bind stringOf?
    let foreignField ← orDefault "_id" stringOf? foreignField
    let single ← orDefault false boolOf? single
    return { name, collection, localField, foreignField, single }
  | _ => none

/-- The profile that a JSON value stands for. -/
def ofJson? (j : Json) : Option Profile := do
  match ← members? ["name", "search_fields", "relations", "hidden_fields", "field_names"] j with
  | [name, searchFields, relations, hiddenFields, fieldNames] => do
    let name ← name.bind stringOf?
    let searchFields ← orDefault [] (listOf? stringOf?) searchFields
    let relations ← orDefault [] (listOf? relationOf?) relations
    let hiddenFields ← orDefault [] (listOf? stringOf?) hiddenFields
    let fieldNames ← orDefault [] (listOf? stringOf?) fieldNames
    return { name, searchFields, relations, hiddenFields, fieldNames }
  | _ => none

/-- A list of texts as JSON. -/
def ofStrings (ss : List String) : Json :=
  .array (ss.map .string)

/-- A relation as JSON. -/
def ofRelation (r : Relation) : Json :=
  .object [("name", .string r.name), ("from", .string r.collection),
    ("localField", .string r.localField), ("foreignField", .string r.foreignField),
    ("single", .bool r.single)]

/-- A profile as JSON. -/
def toJson (p : Profile) : Json :=
  .object [("name", .string p.name), ("search_fields", ofStrings p.searchFields),
    ("relations", .array (p.relations.map ofRelation)),
    ("hidden_fields", ofStrings p.hiddenFields), ("field_names", ofStrings p.fieldNames)]

end Profile

end DocQuery
