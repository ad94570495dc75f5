import DocQuery.Text.FormEncoding

/-!
# Request Parameters

The parameters of a request: names with one or more values each, in the order
in which the names first appeared. A parameter that is given several times
reads as its values with commas between them.

## Main definitions

* `Params`: The parameters of a request.
* `Params.append`, `ofPairs`, `parse`: Build them.
* `Params.get?`: The text of a parameter.

## Theorems

* `Params.values?_append_self`, `values?_append_of_ne`: What one more value
  changes.
-/

namespace DocQuery

/-- The parameters of a request. -/
abbrev Params := List (String × List String)

namespace Params

/-- Add a value to a parameter. A new parameter comes last. -/
def append : Params → String → String → Params
  | [], name, value => [(name, [value])]
  | (k, values) :: params, name, value =>
    if k = name then (k, values ++ [value]) :: params
    else (k, values) :: append params name value

/-- The parameters with the given names and values. -/
def ofPairs (pairs : List (String × String)) : Params :=
  pairs.foldl (fun params p => append params p.1 p.2) []

/-- The parameters of a query string. -/
def parse (query : List Char) : Params :=
  ofPairs ((Text.FormEncoding.pairs query).map fun p => (String.ofList p.1, String.ofList p.2))

/-- The values of a parameter. -/
def values? : Params → String → Option (List String)
  | [], _ => none
  | (k, values) :: params, name => if k = name then some values else values? params name

/-- Several values as one text. -/
def join (values : List String) : List Char :=
  [','].intercalate (values.map String.toList)

/-- The text of a parameter. -/
def get? (params : Params) (name : String) : Option (List Char) :=
  (values? params name).map join

theorem values?_append_self (params : Params) (name value : String) :
    values? (append params name value) name =
      some ((values? params name).getD [] ++ [value]) := by
  induction params with
  | nil => simp [append, values?]
  | cons p params ih =>
      rcases p with ⟨k, values⟩
      by_cases h : k = name <;> simp [append, values?, h, ih]

theorem values?_append_of_ne (params : Params) (name other value : String) (h : other ≠ name) :
    values? (append params name value) other = values? params other := by
  induction params with
  | nil => simp [append, values?, h.symm]
  | cons p params ih =>
      rcases p with ⟨k, values⟩
      by_cases hk : k = name
      · subst hk
        simp [append, values?, h.symm]
      · rw [append, if_neg hk, values?, values?, ih]

end Params

end DocQuery
