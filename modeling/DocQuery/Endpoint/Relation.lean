import DocQuery.Text.Blank
import DocQuery.Text.Cut
import DocQuery.Value.Basic

/-!
# Relations

A relation leads from the documents of one collection to those of another. It
is written as its name, an equals sign and the parts `collection`,
`localField`, optionally `foreignField`, and optionally `one` or `many`, with
colons between them. Blanks around a part do not count.

## Main definitions

* `Relation`: A reference into another collection.
* `Relation.parse?`: Read a relation.
* `Relation.stages`: The stages that expand it.
-/

namespace DocQuery

/-- A reference from the documents of one collection to those of another. -/
structure Relation where
  /-- What a request calls the relation, and where its documents go. -/
  name : String
  collection : String
  localField : String
  foreignField : String := "_id"
  /-- Is there one document at most, which stands for itself? -/
  single : Bool := false
deriving DecidableEq

namespace Relation

/-- Read the parts after the local field. -/
def readTail? (r : Relation) : List (List Char) → Option Relation
  | [] => some r
  | part :: parts =>
    if part = [] then none
    else if part = "one".toList then readTail? { r with single := true } parts
    else if part = "many".toList then readTail? { r with single := false } parts
    else readTail? { r with foreignField := String.ofList part } parts

/-- Read a relation. -/
def parse? (s : List Char) : Option Relation := do
  let (name, target) ← Text.cut? (· == '=') s
  match (Text.pieces (· == ':') target).map Text.trim with
  | collection :: localField :: tail =>
    let name := Text.trim name
    let plain : Relation :=
      { name := String.ofList name
        collection := String.ofList collection
        localField := String.ofList localField }
    if name.isEmpty || collection.isEmpty || localField.isEmpty then none
    else plain.readTail? tail
  | _ => none

/-- The stage that joins the documents of a relation. -/
def joinStage (r : Relation) : Document :=
  [("$lookup", .document
    [("from", .string r.collection),
     ("localField", .string r.localField),
     ("foreignField", .string r.foreignField),
     ("as", .string r.name)])]

/-- The stage that puts a single document in the place of its list. -/
def unwindStage (r : Relation) : Document :=
  [("$unwind", .document
    [("path", .string ("$" ++ r.name)),
     ("preserveNullAndEmptyArrays", .boolean true)])]

/-- The stages that expand a relation. -/
def stages (r : Relation) : List Document :=
  if r.single then [r.joinStage, r.unwindStage] else [r.joinStage]

end Relation

end DocQuery
