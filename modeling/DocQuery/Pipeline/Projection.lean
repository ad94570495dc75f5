import DocQuery.Pipeline.Expression

/-!
# Projections

Reshaping documents. A projection keeps the listed paths or drops them; it
cannot do both. The identifier is kept unless it is dropped by name, and keeping
it by name alone is no choice of fields. A kept path may be computed.

## Main definitions

* `Projection`: What to keep or drop.
* `Projection.ofDocument`: The projection that a document stands for.
* `Projection.apply`: The projected document.
* `addFields`: Put computed values into a document.
-/

namespace DocQuery

/-- What to keep of a document, or to drop. -/
inductive Projection where
  /-- Keep the paths, each with its value or a computed one, and the
      identifier perhaps. -/
  | keep (identifier : Bool) (fields : List (Path × Option Expression))
  /-- Drop the paths. -/
  | drop (paths : List Path)

/-- What a projection says about one path. -/
inductive FieldChoice where
  | included
  | excluded
  | computed (e : Expression)

/-- What the value under a path in a projection says. Numbers other than zero
    include it. -/
def FieldChoice.ofValue (v : Value) : FieldChoice :=
  match v with
  | .boolean b => if b then included else excluded
  | v => match v.number? with
    | some x => if x.compare? .zero = some .eq then excluded else included
    | none => computed (Expression.ofValue v)

namespace Projection

/-- What a written projection says, entry by entry. -/
abbrev Choices := List (String × FieldChoice)

/-- What the entries of a written projection say. -/
def choices (d : Document) : Choices :=
  d.map fun p => (p.1, FieldChoice.ofValue p.2)

/-- Is the identifier kept? -/
def keepsIdentifier (cs : Choices) : Bool :=
  cs.all fun
    | ("_id", .excluded) => false
    | _ => true

/-- The paths to drop. -/
def excluded (cs : Choices) : List Path :=
  cs.filterMap fun
    | ("_id", _) => none
    | (name, .excluded) => some (Path.ofString name)
    | _ => none

/-- The paths to keep. -/
def included (cs : Choices) : List (Path × Option Expression) :=
  cs.filterMap fun
    | (name, .computed e) => some (Path.ofString name, some e)
    | ("_id", _) => none
    | (name, .included) => some (Path.ofString name, none)
    | _ => none

/-- The projection that a document stands for. -/
def ofDocument (d : Document) : Except StageError Projection :=
  let cs := choices d
  let kept := included cs
  let dropped := excluded cs
  -- Without anything to keep, the projection only drops, even if the identifier is included.
  if kept.isEmpty then
    .ok (.drop (if keepsIdentifier cs then dropped else dropped ++ [["_id"]]))
  else if dropped.isEmpty then .ok (.keep (keepsIdentifier cs) kept)
  else .error .mixedProjection

/-- The value that a projected document has at a path. -/
def valueFor (d : Document) (path : Path) : Option Expression → Except StageError (Option Value)
  | some e => e.evaluate d
  | none => .ok (d.at? path)

/-- Put a value at a path, if there is one. -/
def put (d : Document) (path : Path) : Option Value → Document
  | some v => d.setAt path v
  | none => d

/-- A document with nothing but the identifier of another one. -/
def identifierOf (d : Document) : Document :=
  match d.get? "_id" with
  | some v => [("_id", v)]
  | none => []

/-- The projected document. -/
def apply (p : Projection) (d : Document) : Except StageError Document :=
  match p with
  | keep identifier fields => fields.foldlM
      (fun out field => (valueFor d field.1 field.2).map (put out field.1))
      (if identifier then identifierOf d else [])
  | drop paths => .ok (paths.foldl Document.removeAt d)

end Projection

/-- Put computed values into a document, one after the other. -/
def addFields (fields : List (Path × Expression)) (d : Document) : Except StageError Document :=
  fields.foldlM (fun out field => (field.2.evaluate out).map (Projection.put out field.1)) d

end DocQuery
