import DocQuery.Pipeline.Error

/-!
# Expressions

Values that are computed from a document. A written expression is a value: a
text that starts with a dollar sign reads a path, a document with a single
name that starts with one applies an operator, other documents and arrays are
computed part by part, and everything else is itself.

The result may be missing. A missing part is left out of a document and is
null in an array. What is wrong with an expression shows when it is evaluated.

## Main definitions

* `Expression`: A computation on documents.
* `Expression.ofValue`: The expression that a value stands for.
* `Expression.evaluate`: Its result for a document.
-/

namespace DocQuery

/-- A computation on documents. -/
inductive Expression where
  | path (p : Path)
  | literal (v : Value)
  | document (fields : List (String × Expression))
  | array (items : List Expression)
  | elementAt (source index : Expression)
  | firstPresent (leading : List Expression) (last : Expression)
  | invalid (e : StageError)

namespace Expression

/-- The path after the dollar sign of a text, if it has one. -/
def marked? (s : String) : Option Path :=
  match s.toList with
  | '$' :: rest => some (Path.ofString (String.ofList rest))
  | _ => none

/-- The application of an operator to arguments that have been read. The value
    itself is the argument as it was written. -/
def operation (name : String) (v : Value) (arguments : Option (List Expression)) : Expression :=
  match name, arguments with
  | "$literal", _ => literal v
  | "$arrayElemAt", some [source, index] => elementAt source index
  | "$arrayElemAt", _ => invalid (.argumentCount name)
  | "$ifNull", none => invalid .alternativesNotArray
  | "$ifNull", some arguments => match arguments.reverse with
    | [] => invalid .noAlternatives
    | last :: leading => firstPresent leading.reverse last
  | _, _ => invalid (.unknownExpression name)

mutual

/-- The expression that a value stands for. -/
def ofValue : Value → Expression
  | .string s => match marked? s with
    | some p => path p
    | none => literal (.string s)
  | .document fields => ofFields fields
  | .array items => array (ofItems items)
  | v => literal v

/-- The expression that a document stands for. -/
def ofFields : List (String × Value) → Expression
  | [] => document []
  | [(name, v)] =>
    if Filter.isOperator name then operation name v (argumentsOf v)
    else document [(name, ofValue v)]
  | (name, v) :: next :: rest => document ((name, ofValue v) :: ofEntries (next :: rest))

/-- The expressions that the entries of a document stand for. -/
def ofEntries : List (String × Value) → List (String × Expression)
  | [] => []
  | (name, v) :: rest => (name, ofValue v) :: ofEntries rest

/-- The expressions that a list of values stands for. -/
def ofItems : List Value → List Expression
  | [] => []
  | v :: items => ofValue v :: ofItems items

/-- The arguments in an array. -/
def argumentsOf : Value → Option (List Expression)
  | .array items => some (ofItems items)
  | _ => none

end

/-- The element at an index, from the end if the index is negative. -/
def element? (items : List Value) (index : Int) : Option Value :=
  let place := if index < 0 then items.length + index else index
  if place < 0 then none else items[place.toNat]?

/-- Is a result missing or null? -/
def isAbsent : Option Value → Bool
  | none => true
  | some .null => true
  | _ => false

/-- The element at an index that has been computed. -/
def elementOf (items : List Value) (index : Option Value) : Except StageError (Option Value) :=
  match index.bind Value.integer? with
  | some n => .ok (element? items n)
  | none => .error .elementIndex

mutual

/-- The result of an expression for a document. -/
def evaluate : Expression → Document → Except StageError (Option Value)
  | path p, d => .ok (d.at? p)
  | literal v, _ => .ok (some v)
  | document fields, d => do
    let fields ← evaluateFields fields d
    return some (.document (Document.ofPairs fields))
  | array items, d => do
    let items ← evaluateItems items d
    return some (.array items)
  | elementAt source index, d => do
    let found ← source.evaluate d
    match found with
    | some (.array items) => do
      -- The index is evaluated only if there is an array to look into.
      let place ← index.evaluate d
      elementOf items place
    | found => if isAbsent found then .ok none else .error .elementOfNoArray
  | firstPresent leading last, d => do
    let found ← evaluateFirst leading d
    match found with
    | some v => return some v
    | none => last.evaluate d
  | invalid e, _ => .error e

/-- The results of named expressions that have one. -/
def evaluateFields : List (String × Expression) → Document →
    Except StageError (List (String × Value))
  | [], _ => .ok []
  | (name, e) :: rest, d => do
    let v ← e.evaluate d
    let more ← evaluateFields rest d
    return match v with
      | some v => (name, v) :: more
      | none => more

/-- The results of a list of expressions, null where there is none. -/
def evaluateItems : List Expression → Document → Except StageError (List Value)
  | [], _ => .ok []
  | e :: rest, d => do
    let v ← e.evaluate d
    let more ← evaluateItems rest d
    return v.getD .null :: more

/-- The first result of a list of expressions that is neither missing nor
    null. Nothing after it is evaluated. -/
def evaluateFirst : List Expression → Document → Except StageError (Option Value)
  | [], _ => .ok none
  | e :: rest, d => do
    let v ← e.evaluate d
    if isAbsent v then evaluateFirst rest d else return v

end

end Expression

end DocQuery
