import DocQuery.Text.Utf8
import DocQuery.Value.Forms

/-!
# Documents from a Store

A document that a store answers with is decoded before it is used: a document
inside it that is the extended form of a value becomes that value.

Its entries are read in order. The first name that marks a kind decides, and
what stands before and after it is dropped; a content that does not fit makes
the whole undecodable. A document without such names is itself.

## Main definitions

* `Value.decode?`: A value with the extended forms inside it replaced.
* `Document.decode?`: The same for a document, which has to stay one.
-/

namespace DocQuery

open Number

namespace Value

/-- The values under the given names, if there are no others. -/
def entries? (names : List String) : Value → Option (List Value)
  | .array items => if items.length = names.length then some items else none
  | .document fields =>
    if fields.all fun p => names.contains p.1 then names.mapM (Document.get? fields) else none
  | _ => none

/-- The content of an identifier: its digits or its twelve bytes. -/
def idContent? : Value → Option Value
  | .string s => Form.objectId? s
  | .binary 0 bytes =>
    if bytes.length = 12 then
      some (.objectId ⟨BitVec.ofNat 96 (bytes.foldl (fun n b => n * 256 + b.toNat) 0)⟩)
    else none
  | _ => none

/-- The content of bytes. -/
def binaryContent? (content : Value) : Option Value :=
  match entries? ["base64", "subType"] content with
  | some [.string base64, .string subtype] => Form.binary? base64 subtype
  | _ => none

/-- The content of a timestamp. -/
def timestampContent? (content : Value) : Option Value :=
  let word? (v : Value) : Option UInt32 := match v with
    | .int32 n => Form.toWord? n.toInt
    | .int64 n => Form.toWord? n.toInt
    | _ => none
  match entries? ["t", "i"] content with
  | some [t, i] => match word? t, word? i with
    | some t, some i => some (.timestamp t i)
    | _, _ => none
  | _ => none

/-- The content of a pattern. -/
def regexContent? (content : Value) : Option Value :=
  match entries? ["pattern", "options"] content with
  | some [.string pattern, .string options] => some (.regex pattern (sortOptions options))
  | _ => none

/-- The content of a pointer. -/
def pointerContent? (content : Value) : Option Value :=
  match entries? ["$ref", "$id"] content with
  | some [.string collection, .objectId id] => some (.pointer collection id)
  | some [.string collection, id] => match entries? ["$oid"] id with
    | some [.string hex] => (ObjectId.read? hex.toList).map (.pointer collection)
    | _ => none
  | _ => none

/-- The content of an instant. -/
def dateContent? (content : Value) : Option Value :=
  match entries? ["$numberLong"] content, content with
  | some [.string millis], _ => Form.millis? millis
  | _, .string s => Form.date? s
  | _, .int32 n => some (.dateTime (.ofInt n.toInt))
  | _, .int64 n => some (.dateTime n)
  | _, _ => none

/-- The byte that a value stands for. -/
def byte? (v : Value) : Option UInt8 :=
  match v with
  | .int32 n => if 0 ≤ n.toInt ∧ n.toInt < 256 then some (.ofNat n.toInt.toNat) else none
  | .int64 n => if 0 ≤ n.toInt ∧ n.toInt < 256 then some (.ofNat n.toInt.toNat) else none
  | _ => none

/-- The bytes that a value stands for: its own, those of a text, or one for each
    number of an array. -/
def bytes? : Value → Option (List UInt8)
  | .binary 0 bytes => some bytes
  | .string s => some (Text.Utf8.encode s.toList)
  | .array items => items.mapM byte?
  | _ => none

/-- The content of a decimal that is given by its bytes. -/
def decimalContent? (content : Value) : Option Value :=
  ((bytes? content).bind Decimal128.ofBytes?).map .decimal

/-- A content that is one text. -/
def textContent? (read? : String → Option Value) : Value → Option Value
  | .string s => read? s
  | _ => none

/-- A content that has to be the integer one. -/
def oneContent? (v : Value) : Value → Option Value
  | .int32 n => if n = 1 then some v else none
  | .int64 n => if n = 1 then some v else none
  | _ => none

/-- A content that has to be true. -/
def trueContent? (v : Value) : Value → Option Value
  | .boolean true => some v
  | _ => none

/-- The reader of the content under a name that marks a kind other than
    code. -/
def contentReader? (name : String) : Option (Value → Option Value) :=
  match name with
  | "$oid" => some idContent?
  | "$symbol" => some (textContent? fun s => some (.symbol s))
  | "$numberInt" => some (textContent? Form.int32?)
  | "$numberLong" => some (textContent? Form.int64?)
  | "$numberDouble" => some (textContent? Form.double?)
  | "$numberDecimal" => some (textContent? Form.decimal?)
  | "$numberDecimalBytes" => some decimalContent?
  | "$binary" => some binaryContent?
  | "$uuid" => some (textContent? Form.uuid?)
  | "$timestamp" => some timestampContent?
  | "$regularExpression" => some regexContent?
  | "$dbPointer" => some pointerContent?
  | "$date" => some dateContent?
  | "$maxKey" => some (oneContent? .maxKey)
  | "$minKey" => some (oneContent? .minKey)
  | "$undefined" => some (trueContent? .undefined)
  | _ => none

/-- Code from its source and its decoded scope, if those are what they have to
    be. -/
def scoped? : Value → Option Value → Option Value
  | .string source, some (.document scope) => some (.scopedCode source scope)
  | _, _ => none

mutual

/-- A value with the extended forms inside it replaced by what they stand
    for. -/
def decode? : Value → Option Value
  | .array items => (decodeItems? items).map .array
  | .document fields => decodeFields? [] fields
  | .scopedCode source scope => scoped? (.string source) (decodeFields? [] scope)
  | .regex pattern options => some (.regex pattern (sortOptions options))
  | v => some v

/-- The decoded values of a list. -/
def decodeItems? : List Value → Option (List Value)
  | [] => some []
  | v :: items => match decode? v, decodeItems? items with
    | some w, some ws => some (w :: ws)
    | _, _ => none

/-- What a document stands for, from the entries already read and the ones
    still to read. -/
def decodeFields? : Document → List (String × Value) → Option Value
  | done, [] => some (.document done)
  | done, (k, v) :: rest =>
    if k = "$code" then
      match rest with
      | [] => match v with
        | .string source => some (.code source)
        | _ => none
      | (k', w) :: _ => if k' = "$scope" then scoped? v (decode? w) else none
    else if k = "$scope" then
      match rest with
      | [] => none
      | (k', w) :: _ => if k' = "$code" then scoped? w (decode? v) else none
    else match contentReader? k with
      -- The rest of the entries is not looked at.
      | some read? => read? v
      | none => match decode? v with
        | some w => decodeFields? (Document.insert done k w) rest
        | none => none

end

end Value

/-- A document with the extended forms inside it replaced by what they stand
    for, if it is not such a form itself. -/
def Document.decode? (d : Document) : Option Document :=
  match Value.decode? (.document d) with
  | some (.document fields) => some fields
  | _ => none

end DocQuery
