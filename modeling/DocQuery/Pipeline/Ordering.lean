import DocQuery.Pipeline.Error
import DocQuery.Sorting.Basic

/-!
# Ordering Documents

Sorting by the values at some paths. The first path counts most, and each is
sorted upward or downward. Documents that are equal at all paths keep their
order. Values have no order that all of them fit in, so a sort of many documents
may give up.

## Main definitions

* `Direction`: Upward or downward.
* `SortKeys.ofDocument`: The keys that a document stands for.
* `SortKeys.compare`: The order of two documents.
* `SortKeys.sort`: Documents in order, if the sort does not give up.

## Theorems

* `SortKeys.perm_sort`: Nothing is lost or added.
-/

namespace DocQuery

open Number

/-- A direction of sorting. -/
inductive Direction where
  | ascending
  | descending
deriving DecidableEq

namespace Direction

/-- The direction that a value stands for: one or minus one, as a number of
    any kind. -/
def ofValue? (v : Value) : Option Direction :=
  if v.compareNumbers? (.int32 1) = some .eq then some ascending
  else if v.compareNumbers? (.int32 (-1)) = some .eq then some descending
  else none

/-- An order in a direction. -/
def apply : Direction → Ordering → Ordering
  | ascending, o => o
  | descending, o => o.swap

end Direction

/-- Paths to sort by, the most important first. -/
abbrev SortKeys := List (Path × Direction)

namespace SortKeys

/-- The keys that a document stands for. -/
def ofDocument (d : Document) : Except StageError SortKeys :=
  d.mapM fun p => match Direction.ofValue? p.2 with
    | some direction => .ok (Path.ofString p.1, direction)
    | none => .error (.badDirection p.1)

/-- The order of two documents. -/
def compare (keys : SortKeys) (a b : Document) : Ordering :=
  -- A later key counts only where all earlier ones are equal.
  keys.foldr (fun key o => (key.2.apply (Value.sortOrder (a.at? key.1) (b.at? key.1))).then o) .eq

end SortKeys

/-- The documents sorted by keys, unless the sort gives up. -/
def SortKeys.sort (keys : SortKeys) (docs : List Document) : Option (List Document) :=
  Sorting.sortBy (fun a b => keys.compare a b == .lt) docs

theorem SortKeys.perm_sort (keys : SortKeys) {docs sorted : List Document}
    (h : keys.sort docs = some sorted) : sorted.Perm docs :=
  Sorting.perm_sortBy _ docs sorted h

end DocQuery
