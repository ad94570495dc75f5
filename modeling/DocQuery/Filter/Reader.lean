import DocQuery.Filter.Basic
import DocQuery.Pattern.Reader

/-!
# Reading Filters

A filter is written as a document. Its entries all have to hold. A name is a
path, and the value under it is what the path has to lead to, or else a
document of operators, which is told by the dollar sign of its first name.
The two names `$and` and `$or` combine filters that are written in an array.

## Main definitions

* `FilterError`: What can be wrong with a written filter.
* `FilterError.message`: Its description.
* `Filter.read`: The filter that a document stands for.
-/

namespace DocQuery

/-- What can be wrong with a written filter. -/
inductive FilterError where
  | unknownOperator (name : String)
  | partsNotArray
  | noParts
  | partNotDocument
  | unknownCondition (name : String)
  | candidatesNotArray
  | presenceNotBoolean
  | optionsAlone
  | patternNotText
  | optionsNotText
  | besidePattern (name : String)
  | unknownOption (c : Char)
  | badPattern (text : List Char)
  | largePattern
deriving DecidableEq

namespace FilterError

/-- The description of what is wrong. -/
def message : FilterError → String
  | unknownOperator name => "unknown top-level operator: " ++ name
  | partsNotArray => "$and/$or value must be an array"
  | noParts => "$and/$or array must not be empty"
  | partNotDocument => "$and/$or array elements must be documents"
  | unknownCondition name => "unknown field operator: " ++ name
  | candidatesNotArray => "$in value must be an array"
  | presenceNotBoolean => "$exists value must be a boolean"
  | optionsAlone => "$options without $regex"
  | patternNotText => "$regex value must be a string"
  | optionsNotText => "$options value must be a string"
  | besidePattern name => "unexpected key alongside $regex: " ++ name
  | unknownOption c => "unknown regex option: " ++ String.ofList [c]
  -- The text tells the patterns apart, the description is the same for all.
  | badPattern _ => "invalid regex pattern"
  | largePattern => "invalid regex pattern: Compiled regex exceeds size limit of 10485760 bytes."

end FilterError

namespace Filter

/-- Does a name start with a dollar sign? -/
def isOperator (name : String) : Bool :=
  name.toList.head? == some '$'

/-- The condition that an operator and its operand stand for. -/
def readCondition (path : Path) (name : String) (operand : Value) : Except FilterError Filter :=
  match name, operand with
  | "$eq", v => .ok (equals path v)
  | "$ne", v => .ok (differs path v)
  | "$in", .array candidates => .ok (oneOf path candidates)
  | "$in", _ => .error .candidatesNotArray
  | "$exists", .boolean b => .ok (present path b)
  | "$exists", _ => .error .presenceNotBoolean
  | "$options", _ => .error .optionsAlone
  | name, v => match Comparator.ofKey? name with
    | some c => .ok (compares c path v)
    | none => .error (.unknownCondition name)

/-- The text and the options of a pattern that have been read. -/
structure PatternParts where
  text : Option String := none
  options : Option String := none

/-- Read an entry of a document of operators that has a pattern. A pattern
    value brings options of its own, which count if no others came before. -/
def readPatternPart (parts : PatternParts) (name : String) (v : Value) :
    Except FilterError PatternParts :=
  match name, v with
  | "$regex", .string s => .ok { parts with text := some s }
  | "$regex", .regex pattern options => .ok
      { text := some pattern
        options := parts.options <|> if options.isEmpty then none else some options }
  | "$regex", _ => .error .patternNotText
  | "$options", .string s => .ok { parts with options := some s }
  | "$options", _ => .error .optionsNotText
  | name, _ => .error (.besidePattern name)

/-- The flags that options stand for, as they are written in a pattern. -/
def optionFlags (options : String) : Except FilterError (List Char) :=
  if options.isEmpty then .ok []
  else match options.toList.find? fun c => c ∉ ['i', 's', 'm', 'x'] with
    | some c => .error (.unknownOption c)
    | none => .ok ('(' :: '?' :: options.toList ++ [')'])

/-- The condition that a pattern with options stands for. -/
def ofPattern (path : Path) (text options : String) : Except FilterError Filter := do
  let flags ← optionFlags options
  match Pattern.read (flags ++ text.toList) with
  | .ok pattern => .ok (matching path pattern)
  | .error .form => .error (.badPattern (flags ++ text.toList))
  | .error .size => .error .largePattern

/-- The condition that a document of operators stands for. -/
def readConditions (path : Path) (d : Document) : Except FilterError Filter := do
  -- A pattern allows no other conditions beside it, wherever it stands.
  if d.contains "$regex" then
    let parts ← d.foldlM (fun parts p => readPatternPart parts p.1 p.2) {}
    ofPattern path (parts.text.getD "") (parts.options.getD "")
  else
    let parts ← d.mapM fun p => readCondition path p.1 p.2
    return conjunction parts

/-- Is this a document of operators? -/
def isConditions : Document → Bool
  | [] => false
  | (name, _) :: _ => isOperator name

/-- The condition that a path and the value under it stand for. -/
def readField (name : String) (v : Value) : Except FilterError Filter :=
  match v with
  | .document fields =>
    if isConditions fields then readConditions (Path.ofString name) fields
    else .ok (equals (Path.ofString name) v)
  | v => .ok (equals (Path.ofString name) v)

mutual

/-- The conditions that the entries of a document stand for. -/
def readEntries : List (String × Value) → Except FilterError (List Filter)
  | [] => .ok []
  | (name, v) :: rest => do
    let f ←
      if name = "$and" then (readParts v).map all
      else if name = "$or" then (readParts v).map any
      else if isOperator name then .error (.unknownOperator name)
      else readField name v
    let fs ← readEntries rest
    return f :: fs

/-- The filters that are written in an array. -/
def readParts : Value → Except FilterError (List Filter)
  | .array [] => .error .noParts
  | .array (v :: items) => do
    let f ← readPart v
    let fs ← readItems items
    return f :: fs
  | _ => .error .partsNotArray

/-- The filters that a list of documents stands for. -/
def readItems : List Value → Except FilterError (List Filter)
  | [] => .ok []
  | v :: items => do
    let f ← readPart v
    let fs ← readItems items
    return f :: fs

/-- The filter that a value stands for. -/
def readPart : Value → Except FilterError Filter
  | .document fields => (readEntries fields).map conjunction
  | _ => .error .partNotDocument

end

/-- The filter that a document stands for. -/
def read (d : Document) : Except FilterError Filter :=
  (readEntries d).map conjunction

end Filter

end DocQuery
