import DocQuery.Calendar.Reader
import DocQuery.Number.Decimal
import DocQuery.Text.Base64
import DocQuery.Value.Basic
import DocQuery.Value.Extended

/-!
# The Texts Inside Extended Forms

Several extended forms hold a value as text: integers, numbers, bytes,
universally unique identifiers and instants. These are the readers of those
texts, for seed files and for documents that come back from a store alike.

## Main definitions

* `Form.int32?`, `Form.int64?`, `Form.double?`, `Form.decimal?`: Numbers in
  quotation marks.
* `Form.binary?`, `Form.uuid?`: Bytes.
* `Form.date?`: Instants.
-/

namespace DocQuery

namespace Form

open Number

/-- A 32-bit integer, if it is in range. -/
def toInt32? (n : Int) : Option Int32 :=
  if Int32.minValue.toInt ≤ n ∧ n ≤ Int32.maxValue.toInt then some (.ofInt n) else none

/-- A 64-bit integer, if it is in range. -/
def toInt64? (n : Int) : Option Int64 :=
  if Int64.minValue.toInt ≤ n ∧ n ≤ Int64.maxValue.toInt then some (.ofInt n) else none

/-- An unsigned 32-bit integer, if it is in range. -/
def toWord? (n : Int) : Option UInt32 :=
  if 0 ≤ n ∧ n < UInt32.size then some (.ofNat n.toNat) else none

/-- The 32-bit integer that a text stands for. -/
def int32? (s : String) : Option Value :=
  ((readInt? s.toList).bind toInt32?).map .int32

/-- The 64-bit integer that a text stands for. -/
def int64? (s : String) : Option Value :=
  ((readInt? s.toList).bind toInt64?).map .int64

/-- The number that a text stands for. -/
def double? (s : String) : Option Value :=
  (Binary64.read? s.toList).map .double

/-- The decimal that a text stands for. -/
def decimal? (s : String) : Option Value :=
  (Decimal128.read? s.toList).map .decimal

/-- The identifier that a text stands for. -/
def objectId? (s : String) : Option Value :=
  (ObjectId.read? s.toList).map .objectId

/-- The bytes that a text stands for, with their subtype as two hexadecimal
    digits. -/
def binary? (base64 subtype : String) : Option Value :=
  match Text.Base64.decode? base64.toList, Text.Hex.bytes? subtype.toList with
  | some bytes, some [t] => some (.binary t bytes)
  | _, _ => none

/-- Remove the hyphens of a written identifier, which stand before the digits
    9, 13, 17 and 21. -/
def unhyphen? (s : List Char) : Option (List Char) :=
  if s.length = 36 ∧ s[8]? = some '-' ∧ s[13]? = some '-' ∧ s[18]? = some '-' ∧
      s[23]? = some '-' then
    some (s.take 8 ++ (s.drop 9).take 4 ++ (s.drop 14).take 4 ++ (s.drop 19).take 4 ++ s.drop 24)
  else none

/-- The 32 digits of a universally unique identifier, which may be written
    with hyphens, and then also in braces or as a name in its URN space. -/
def uuidDigits? (s : List Char) : Option (List Char) :=
  if s.length = 32 then some s
  else if s.length = 36 then unhyphen? s
  else if s.length = 38 ∧ s.head? = some '{' ∧ s.getLast? = some '}' then
    unhyphen? (s.drop 1).dropLast
  else if s.length = 45 ∧ s.take 9 = "urn:uuid:".toList then unhyphen? (s.drop 9)
  else none

/-- The bytes of a universally unique identifier. -/
def uuid? (s : String) : Option Value :=
  ((uuidDigits? s.toList).bind Text.Hex.bytes?).map (.binary 4)

/-- The instant that a text stands for. -/
def date? (s : String) : Option Value :=
  ((Calendar.strictInstant? s.toList).bind toInt64?).map .dateTime

/-- The instant that a count of milliseconds in quotation marks stands for. -/
def millis? (s : String) : Option Value :=
  ((readInt? s.toList).bind toInt64?).map .dateTime

end Form

end DocQuery
