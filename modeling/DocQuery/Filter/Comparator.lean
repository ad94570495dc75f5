/-!
# Comparators

The four comparisons that a filter can ask for. Each has a word, which is also
its operator in a filter after a dollar sign.

## Main definitions

* `Comparator`: A comparison.
* `Comparator.word`, `key`: Its two names.
* `Comparator.ofWord?`, `ofKey?`: The comparison with a name.
* `Comparator.admits`: Which orders it accepts.

## Theorems

* `Comparator.ofWord?_eq_some_iff`, `ofKey?_eq_some_iff`: The names read back
  and stand for nothing else.
-/

namespace DocQuery

/-- A comparison with a bound. -/
inductive Comparator where
  | gte
  | gt
  | lte
  | lt
deriving DecidableEq

namespace Comparator

/-- The word for a comparison. -/
def word : Comparator → String
  | gte => "gte"
  | gt => "gt"
  | lte => "lte"
  | lt => "lt"

/-- The operator for a comparison. -/
def key : Comparator → String
  | gte => "$gte"
  | gt => "$gt"
  | lte => "$lte"
  | lt => "$lt"

/-- All comparisons. -/
def all : List Comparator := [gte, gt, lte, lt]

/-- The comparison with a word. -/
def ofWord? (s : String) : Option Comparator :=
  all.find? fun c => c.word == s

/-- The comparison with an operator. -/
def ofKey? (s : String) : Option Comparator :=
  all.find? fun c => c.key == s

/-- Does the comparison accept this order of a value and the bound? -/
def admits : Comparator → Ordering → Bool
  | gte, o => o.isGE
  | gt, o => o.isGT
  | lte, o => o.isLE
  | lt, o => o.isLT

theorem toList_key (c : Comparator) : c.key.toList = '$' :: c.word.toList := by
  cases c <;> decide

theorem ofWord?_eq_some_iff (s : String) (c : Comparator) : ofWord? s = some c ↔ c.word = s := by
  constructor
  · intro h
    simpa using List.find?_some h
  · rintro rfl
    cases c <;> decide

theorem ofKey?_eq_some_iff (s : String) (c : Comparator) : ofKey? s = some c ↔ c.key = s := by
  constructor
  · intro h
    simpa using List.find?_some h
  · rintro rfl
    cases c <;> decide

end Comparator

end DocQuery
