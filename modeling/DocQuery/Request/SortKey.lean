import DocQuery.Pipeline.Ordering

/-!
# Sort Keys in Requests

A request names the fields to sort by, with a minus sign in front of those to
sort downward. A field that is named again keeps its place and gets the last
direction.

## Main definitions

* `SortKey`: A field and a direction.
* `SortKey.read?`: The key that a text stands for.
* `SortKey.collect`: The keys of several texts.
* `SortKey.document`: Keys as the argument of a stage.
-/

namespace DocQuery

/-- A field to sort by. -/
structure SortKey where
  field : String
  direction : Direction
deriving DecidableEq

/-- One for upward and minus one for downward. -/
def Direction.value : Direction → Value
  | ascending => .int32 1
  | descending => .int32 (-1)

namespace SortKey

/-- The key that a text stands for, unless the field is empty. -/
def read? (s : List Char) : Option SortKey :=
  match s with
  | [] => none
  -- A minus sign alone names no field.
  | ['-'] => none
  | '-' :: field => some ⟨String.ofList field, .descending⟩
  | field => some ⟨String.ofList field, .ascending⟩

/-- Add a key to others. -/
def add : List SortKey → SortKey → List SortKey
  | [], key => [key]
  | k :: keys, key => if k.field = key.field then key :: keys else k :: add keys key

/-- The keys that several texts stand for. -/
def collect (tokens : List (List Char)) : List SortKey :=
  (tokens.filterMap read?).foldl add []

/-- Keys as the argument of a sorting stage. -/
def document (keys : List SortKey) : Document :=
  Document.ofPairs (keys.map fun key => (key.field, key.direction.value))

end SortKey

end DocQuery
