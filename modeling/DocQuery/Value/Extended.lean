import DocQuery.Calendar.Instant
import DocQuery.Json.Basic
import DocQuery.Text.Base64
import DocQuery.Value.Basic

/-!
# Values as JSON

Two ways to write a value as JSON. The extended form says of every value what
kind it is, by wrapping the kinds that JSON lacks in objects with a member
whose name starts with a dollar sign. Whole numbers of both sizes and finite
numbers are written as plain numbers.

The plain form is meant for clients: identifiers are their hexadecimal digits
and instants are RFC 3339 texts, or milliseconds in years that have no such
text. Everything else is extended.

## Main definitions

* `Value.extended`: The extended form of a value.
* `Value.plain`: The plain form of a value.
-/

namespace DocQuery

open Number

namespace Value

/-- A text as a JSON string. -/
def jsonText (s : List Char) : Json :=
  .string (String.ofList s)

/-- An object with one member, which says the kind of a value. -/
def wrap (name : String) (content : Json) : Json :=
  .object [(name, content)]

/-- The identifier in its extended form. -/
def extendedId (id : ObjectId) : Json :=
  wrap "$oid" (jsonText id.hex)

/-- A number in its extended form. JSON has no infinities and no NaN. -/
def extendedDouble (x : Binary64) : Json :=
  if x.isFinite then .real x
  else wrap "$numberDouble" (.string
    (if x.isNaN then "NaN" else if x.negative then "-Infinity" else "Infinity"))

/-- An instant in its extended form: a text from the epoch to the year 9999,
    the milliseconds otherwise. -/
def extendedDate (millis : Int64) : Json :=
  let n := millis.toInt
  -- Before the epoch the extended form avoids texts, though there are some.
  wrap "$date" <| match if 0 ≤ n then Calendar.render? n else none with
    | some s => jsonText s
    | none => wrap "$numberLong" (jsonText (text n))

/-- The options of a pattern in alphabetical order. -/
def sortOptions (options : String) : String :=
  String.ofList (options.toList.mergeSort fun a b => a.toNat ≤ b.toNat)

mutual

/-- The extended form of a value. -/
def extended : Value → Json
  | .null => .null
  | .boolean b => .bool b
  | .int32 n => .whole n.toInt
  | .int64 n => .whole n.toInt
  | .double x => extendedDouble x
  | .decimal x => wrap "$numberDecimal" (jsonText x.text)
  | .string s => .string s
  | .array items => .array (extendedItems items)
  | .document fields => .object (extendedFields fields)
  | .objectId id => extendedId id
  | .dateTime millis => extendedDate millis
  | .regex pattern options => wrap "$regularExpression"
      (.object [("pattern", .string pattern), ("options", .string (sortOptions options))])
  | .binary subtype bytes => wrap "$binary"
      (.object [("base64", jsonText (Text.Base64.encode bytes)),
        ("subType", jsonText (Text.Hex.padded 2 subtype.toNat))])
  | .timestamp time increment => wrap "$timestamp"
      (.object [("t", .whole time.toNat), ("i", .whole increment.toNat)])
  | .symbol s => wrap "$symbol" (.string s)
  | .code source => wrap "$code" (.string source)
  | .scopedCode source scope =>
    .object [("$code", .string source), ("$scope", .object (extendedFields scope))]
  | .undefined => wrap "$undefined" (.bool true)
  | .minKey => wrap "$minKey" (.whole 1)
  | .maxKey => wrap "$maxKey" (.whole 1)
  | .pointer collection id => wrap "$dbPointer"
      (.object [("$ref", .string collection), ("$id", extendedId id)])

/-- The extended forms of a list of values. -/
def extendedItems : List Value → List Json
  | [] => []
  | v :: items => v.extended :: extendedItems items

/-- The extended forms of named values. -/
def extendedFields : List (String × Value) → List (String × Json)
  | [] => []
  | (k, v) :: fields => (k, v.extended) :: extendedFields fields

end

/-- An instant in its plain form. -/
def plainDate (millis : Int64) : Json :=
  match Calendar.render? millis.toInt with
  | some s => jsonText s
  | none => .whole millis.toInt

mutual

/-- The plain form of a value. -/
def plain : Value → Json
  | .array items => .array (plainItems items)
  | .document fields => .object (plainFields fields)
  | .objectId id => jsonText id.hex
  | .dateTime millis => plainDate millis
  | v => v.extended

/-- The plain forms of a list of values. -/
def plainItems : List Value → List Json
  | [] => []
  | v :: items => v.plain :: plainItems items

/-- The plain forms of named values. -/
def plainFields : List (String × Value) → List (String × Json)
  | [] => []
  | (k, v) :: fields => (k, v.plain) :: plainFields fields

end

end Value

end DocQuery
