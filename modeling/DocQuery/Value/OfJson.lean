import DocQuery.Value.Forms

/-!
# Values from Extended JSON

Reading a JSON value as the value it is the extended form of. A whole number
becomes the smallest kind of integer that holds it, or else a double-precision
number.

An object that has one of the members that mark a kind has to be exactly that
form: with other members, or with a content that does not fit, it stands for
nothing. Where several marks are present the first in a fixed order decides.
All other objects are documents, whatever their names are.

A content with several parts may be an object with a member for each part or
an array of the parts in order.

## Main definitions

* `Value.ofJson?`: The value that a JSON value is the extended form of.
-/

namespace DocQuery

open Number

namespace Value

/-- The value of a whole number. -/
def ofWhole (n : Int) : Value :=
  match Form.toInt32? n, Form.toInt64? n with
  | some m, _ => .int32 m
  | none, some m => .int64 m
  | none, none => .double (.ofInt n)

/-- The parts of a content, in the order of their names. -/
def parts? (names : List String) : Json → Option (List Json)
  | .array items => if items.length = names.length then some items else none
  | .object fields =>
    if fields.all fun p => names.contains p.1 then names.mapM (Json.field? fields) else none
  | _ => none

/-- The content of a pattern. -/
def regexOfJson? (content : Json) : Option Value :=
  match parts? ["pattern", "options"] content with
  | some [.string pattern, .string options] => some (.regex pattern (sortOptions options))
  | _ => none

/-- The content of bytes. -/
def binaryOfJson? (content : Json) : Option Value :=
  match parts? ["base64", "subType"] content with
  | some [.string base64, .string subtype] => Form.binary? base64 subtype
  | _ => none

/-- The content of a timestamp. -/
def timestampOfJson? (content : Json) : Option Value :=
  match parts? ["t", "i"] content with
  | some [.whole t, .whole i] => match Form.toWord? t, Form.toWord? i with
    | some t, some i => some (.timestamp t i)
    | _, _ => none
  | _ => none

/-- The content of an instant: a text, or milliseconds with or without
    quotation marks. -/
def dateOfJson? (content : Json) : Option Value :=
  match parts? ["$numberLong"] content, content with
  | some [.string millis], _ => Form.millis? millis
  | _, .string s => Form.date? s
  | _, .whole n => (Form.toInt64? n).map .dateTime
  | _, _ => none

/-- The content of a pointer. -/
def pointerOfJson? (content : Json) : Option Value :=
  match parts? ["$ref", "$id"] content with
  | some [.string collection, id] => match parts? ["$oid"] id with
    | some [.string hex] => (ObjectId.read? hex.toList).map (.pointer collection)
    | _ => none
  | _ => none

/-- A content that is one text. -/
def textOfJson? (read? : String → Option Value) : Json → Option Value
  | .string s => read? s
  | _ => none

/-- A content that has to be the number one. -/
def oneOfJson? (v : Value) : Json → Option Value
  | .whole 1 => some v
  | _ => none

/-- The marks of the kinds other than code, in the order in which they are
    looked for, with the readers of their contents. Between the two lists
    stands the mark of code. -/
def marksBeforeCode : List (String × (Json → Option Value)) :=
  [("$oid", textOfJson? Form.objectId?),
   ("$symbol", textOfJson? fun s => some (.symbol s)),
   ("$regularExpression", regexOfJson?),
   ("$numberInt", textOfJson? Form.int32?),
   ("$numberLong", textOfJson? Form.int64?),
   ("$numberDouble", textOfJson? Form.double?),
   ("$numberDecimal", textOfJson? Form.decimal?),
   ("$binary", binaryOfJson?),
   ("$uuid", textOfJson? Form.uuid?)]

/-- The marks that are looked for after the mark of code. -/
def marksAfterCode : List (String × (Json → Option Value)) :=
  [("$timestamp", timestampOfJson?),
   ("$date", dateOfJson?),
   ("$minKey", oneOfJson? .minKey),
   ("$maxKey", oneOfJson? .maxKey),
   ("$dbPointer", pointerOfJson?),
   ("$undefined", fun
     | .bool true => some .undefined
     | _ => none)]

/-- What an object is the form of. -/
inductive Shape where
  /-- A form of one of the kinds, with the value it stands for if it is
      complete. -/
  | marked (value : Option Value)
  /-- Code, with a scope perhaps. -/
  | code
  /-- A document. -/
  | document

/-- The first mark of a list that an object has. -/
def firstMark? (marks : List (String × (Json → Option Value)))
    (fields : List (String × Json)) : Option (Option Value) :=
  marks.findSome? fun (name, read?) =>
    (Json.field? fields name).map fun content =>
      if fields.length = 1 then read? content else none

/-- What an object is the form of. -/
def shape (fields : List (String × Json)) : Shape :=
  match firstMark? marksBeforeCode fields with
  | some v => .marked v
  | none =>
    -- Code alone may have a second member, so it is told apart from the other kinds.
    if (Json.field? fields "$code").isSome then .code
    else match firstMark? marksAfterCode fields with
      | some v => .marked v
      | none => .document

/-- The source of code, if there is nothing else in its object than a
    scope. -/
def source? (fields : List (String × Json)) : Option String :=
  if fields.all fun p => p.1 == "$code" || p.1 == "$scope" then
    match Json.field? fields "$code" with
    | some (.string s) => some s
    | _ => none
  else none

/-- Code with its scope, if it has one. -/
def codeWith (source : String) : Option Document → Value
  | some scope => .scopedCode source scope
  | none => .code source

mutual

/-- The value that a JSON value is the extended form of. -/
def ofJson? : Json → Option Value
  | .null => some .null
  | .bool b => some (.boolean b)
  | .whole n => some (ofWhole n)
  | .real x => some (.double x)
  | .string s => some (.string s)
  | .array items => (ofItems? items).map .array
  | .object fields => match shape fields with
    | .marked v => v
    | .code => match source? fields, scopeIn? fields with
      | some source, some scope => some (codeWith source scope)
      | _, _ => none
    | .document => (ofFields? fields).map .document

/-- The values of a list of JSON values. -/
def ofItems? : List Json → Option (List Value)
  | [] => some []
  | j :: items => match ofJson? j, ofItems? items with
    | some v, some vs => some (v :: vs)
    | _, _ => none

/-- The document with the values of an object's members. -/
def ofFields? : List (String × Json) → Option Document
  | [] => some []
  | (k, j) :: fields => match ofJson? j, ofFields? fields with
    | some v, some d => some ((k, v) :: d)
    | _, _ => none

/-- The scope among the members of an object, if there is one. -/
def scopeIn? : List (String × Json) → Option (Option Document)
  | [] => some none
  | (k, j) :: fields => if k = "$scope" then scope? j else scopeIn? fields

/-- The scope of code: a document, or null for none. -/
def scope? : Json → Option (Option Document)
  | .null => some none
  | .object fields => (ofFields? fields).map some
  | _ => none

end

end Value

end DocQuery
