import DocQuery.Pipeline.Error

/-!
# Joining and Unwinding

Joining gives a document the documents of another collection that belong to
it: those whose value at one path equals the document's own value at another.
A missing value counts as null. An array on either side stands for its
elements, on the document's own side at any depth.

Unwinding makes a document for each element of an array in it.

## Main definitions

* `joins`: Do two values belong together?
* `Join`: What to join.
* `Join.apply`: A document with what belongs to it.
* `unwind`: The documents for the elements of an array.
-/

namespace DocQuery

/-- Does the value of another document equal this value, or one of its
    elements? -/
def joinsForeign (v foreign : Value) : Bool :=
  match foreign with
  | .array items => items.any v.same
  | foreign => v.same foreign

mutual

/-- Does a document with the first value at its own path belong together with
    one that has the second at the other path? -/
def joins : Value → Value → Bool
  | .array items, foreign => joinsAny items foreign
  | v, foreign => joinsForeign v foreign

/-- Does one of some values join another one? -/
def joinsAny : List Value → Value → Bool
  | [], _ => false
  | v :: items, foreign => joins v foreign || joinsAny items foreign

end

/-- What to join: the collection, the path of the document itself, the path
    of the others, and the path for the result. -/
structure Join where
  collection : String
  localPath : Path
  foreignPath : Path
  target : Path

namespace Join

/-- The documents that belong to a document, in their order. -/
def partners (j : Join) (foreign : List Document) (d : Document) : List Document :=
  -- A missing value joins a missing one, as both count as null.
  let own := (d.at? j.localPath).getD .null
  foreign.filter fun other => joins own ((other.at? j.foreignPath).getD .null)

/-- A document with the documents that belong to it at the target. -/
def apply (j : Join) (foreign : List Document) (d : Document) : Document :=
  d.setAt j.target (.array ((j.partners foreign d).map .document))

end Join

/-- The documents for the elements of the array at a path. A document without
    elements there stays only if that is asked for, and then loses an empty
    array; one with another value there stays as it is. -/
def unwind (path : Path) (keepEmpty : Bool) (d : Document) : List Document :=
  match d.at? path with
  | some (.array (v :: items)) => (v :: items).map fun item => d.setAt path item
  | some (.array []) => if keepEmpty then [d.removeAt path] else []
  | none | some .null => if keepEmpty then [d] else []
  | some _ => [d]

end DocQuery
