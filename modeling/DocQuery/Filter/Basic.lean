import DocQuery.Filter.Comparator
import DocQuery.Pattern.Basic
import DocQuery.Value.Order
import DocQuery.Value.Path

/-!
# Filters

Conditions on documents. A filter tests the value at a path, or combines other
filters. Where the path leads to an array, a test passes if one of the elements
passes; only the comparison with an array looks at the array itself.

A missing value is equal to null and to nothing else, has no order, and
matches no pattern.

## Main definitions

* `Filter`: A condition on documents.
* `Filter.holds`: Does a document satisfy it?
* `Filter.conjunction`: All of some filters.

## Theorems

* `Filter.holds_conjunction`: A document satisfies a conjunction exactly when
  it satisfies every part.
-/

namespace DocQuery

/-- A condition on documents. -/
inductive Filter where
  | all (parts : List Filter)
  | any (parts : List Filter)
  | equals (path : Path) (expected : Value)
  | differs (path : Path) (expected : Value)
  | compares (c : Comparator) (path : Path) (bound : Value)
  | oneOf (path : Path) (candidates : List Value)
  | matching (path : Path) (pattern : Pattern)
  | present (path : Path) (expected : Bool)

namespace Filter

/-- All of some filters. A single one stands for itself. -/
def conjunction : List Filter → Filter
  | [f] => f
  | fs => all fs

/-- Is a value that may be missing equal to another one, or has it such an
    element? -/
def equal (found : Option Value) (expected : Value) : Bool :=
  match found, expected with
  -- A missing value cannot be told from null.
  | none, .null => true
  | none, _ => false
  | some (.array items), .array expected => (Value.array items).same (.array expected)
  | some (.array items), expected => items.any fun v => v.same expected
  | some v, expected => v.same expected

/-- Does a value that may be missing pass a test, or one of its elements? -/
def passes (test : Value → Bool) : Option Value → Bool
  | some (.array items) => items.any test
  | some v => test v
  | none => false

/-- Is the order of a value and a bound one that a comparison accepts? -/
def compareWith (c : Comparator) (bound v : Value) : Bool :=
  match v.compare? bound with
  | some o => c.admits o
  | none => false

/-- Is a value a text in which a pattern occurs? -/
def textMatches (pattern : Pattern) : Value → Bool
  | .string s => pattern.occursIn s.toList
  | _ => false

mutual

/-- Does a document satisfy a filter? -/
def holds : Filter → Document → Bool
  | all parts, d => holdsAll parts d
  | any parts, d => holdsAny parts d
  | equals path expected, d => equal (d.at? path) expected
  | differs path expected, d => !equal (d.at? path) expected
  | compares c path bound, d => passes (compareWith c bound) (d.at? path)
  | oneOf path candidates, d => candidates.any (equal (d.at? path))
  | matching path pattern, d => passes (textMatches pattern) (d.at? path)
  | present path expected, d => (d.at? path).isSome == expected

/-- Does a document satisfy each filter of a list? -/
def holdsAll : List Filter → Document → Bool
  | [], _ => true
  | f :: fs, d => f.holds d && holdsAll fs d

/-- Does a document satisfy a filter of a list? -/
def holdsAny : List Filter → Document → Bool
  | [], _ => false
  | f :: fs, d => f.holds d || holdsAny fs d

end

theorem holdsAll_eq (fs : List Filter) (d : Document) :
    holdsAll fs d = fs.all fun f => f.holds d := by
  induction fs with
  | nil => rfl
  | cons f fs ih => rw [holdsAll, List.all_cons, ih]

theorem holdsAny_eq (fs : List Filter) (d : Document) :
    holdsAny fs d = fs.any fun f => f.holds d := by
  induction fs with
  | nil => rfl
  | cons f fs ih => rw [holdsAny, List.any_cons, ih]

theorem holds_conjunction (fs : List Filter) (d : Document) :
    (conjunction fs).holds d = fs.all fun f => f.holds d := by
  match fs with
  | [] => rfl
  | [f] => simp [conjunction]
  | f :: g :: fs => rw [conjunction, holds, holdsAll_eq]; simp

end Filter

end DocQuery
