import DocQuery.Text.Cut
import DocQuery.Text.Hex
import DocQuery.Text.Utf8

/-!
# Form Encoding

Reading `application/x-www-form-urlencoded` text as name and value pairs.
Nothing is an error here: a percent sign without two hexadecimal digits after
it stands for itself, and bytes that are not UTF-8 become U+FFFD.

## Main definitions

* `unescape`: Undo the escapes of one name or value.
* `pairs`: The names and values of a form-encoded text, in order.
-/

namespace DocQuery

namespace Text

namespace FormEncoding

/-- The value of a byte that is a hexadecimal digit. -/
def hexValue? (b : UInt8) : Option Nat :=
  Hex.value? (Char.ofNat b.toNat)

/-- Undo the escapes of a name or value: a plus sign is a space and a percent
    sign with two hexadecimal digits is the byte they stand for. -/
def unescape : List UInt8 → List UInt8
  | [] => []
  | c :: rest =>
    if c = 0x2B then 0x20 :: unescape rest
    else if c = 0x25 then
      match rest with
      | a :: b :: more => match hexValue? a, hexValue? b with
        | some x, some y => UInt8.ofNat (x * 16 + y) :: unescape more
        -- The percent sign stands for itself, and what follows may hold an escape again.
        | _, _ => c :: unescape (a :: b :: more)
      | short => c :: unescape short
    else c :: unescape rest

/-- One part of the text between ampersands as a name and a value. Without an
    equals sign the value is empty. -/
def pair (part : List UInt8) : List Char × List Char :=
  let (name, value) := (cut? (· == 0x3D) part).getD (part, [])
  (Utf8.decodeLossy (unescape name), Utf8.decodeLossy (unescape value))

/-- The names and values of a form-encoded text, in order. Empty parts
    between ampersands are skipped. -/
def pairs (s : List Char) : List (List Char × List Char) :=
  (tokens (· == 0x26) (Utf8.encode s)).map pair

end FormEncoding

end Text

end DocQuery
