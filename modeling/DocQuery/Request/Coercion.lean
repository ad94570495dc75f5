import DocQuery.Calendar.Reader
import DocQuery.Value.Forms

/-!
# Coercion of Texts

The value that a text of a request stands for. A text that is the name of a
truth value, a number or an identifier stands for that. A bound of a range may
also be a date. What is nothing else stays a text.

## Main definitions

* `Coercion.scalar?`: A truth value, a number or an identifier.
* `Coercion.operand`: The bound of a range.
* `Coercion.value`: The most specific value.
-/

namespace DocQuery

namespace Coercion

open Number

/-- A text as itself. -/
def text (s : List Char) : Value :=
  .string (String.ofList s)

/-- The 64-bit integer that a text stands for. -/
def integer? (s : List Char) : Option Value :=
  ((readInt? s).bind Form.toInt64?).map .int64

/-- The finite number that a text stands for. -/
def real? (s : List Char) : Option Value :=
  (Binary64.readFinite? s).map .double

/-- The number that a text stands for: an integer if possible. -/
def number? (s : List Char) : Option Value :=
  integer? s <|> real? s

/-- The identifier that a text stands for. -/
def objectId? (s : List Char) : Option Value :=
  (ObjectId.read? s).map .objectId

/-- The instant that a text stands for. -/
def date? (s : List Char) : Option Value :=
  (Calendar.instant? s).map fun n => .dateTime (.ofInt n)

/-- The truth value that a text names. -/
def truth? (s : List Char) : Option Value :=
  if s = "true".toList then some (.boolean true)
  else if s = "false".toList then some (.boolean false)
  else none

/-- The truth value, number or identifier that a text stands for. -/
def scalar? (s : List Char) : Option Value :=
  truth? s <|> number? s <|> objectId? s

/-- The bound of a range that a text stands for: an integer, a date or a
    number, and otherwise the text. -/
def operand (s : List Char) : Value :=
  (integer? s <|> date? s <|> real? s).getD (text s)

/-- The most specific value that a text stands for. A text with a comma in it
    is nothing more than a text, or else a truth value, number or
    identifier. -/
def value (s : List Char) : Value :=
  (scalar? s).getD (if s.contains ',' then text s else operand s)

end Coercion

end DocQuery
