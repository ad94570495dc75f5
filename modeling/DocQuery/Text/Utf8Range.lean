import DocQuery.Text.Utf8

/-!
# Ranges of Characters as Bytes

A range of characters, divided so that the characters of each part have the
bytes of all combinations of a first byte, a second byte and so on from one
range each. The parts follow in order.

A range is divided between the lengths of encoded characters, at the surrogates
and where one of its ends is not the end of what the last bytes can count.

## Main definitions

* `Utf8.division?`: Where a range has to be divided.
* `Utf8.byteRanges`: The ranges of bytes of each part.
-/

namespace DocQuery

namespace Text

namespace Utf8

/-- The bytes of a character, by its code point. -/
def bytesOf (n : Nat) : List Nat :=
  (String.utf8EncodeChar (Char.ofNat n)).map UInt8.toNat

/-- The last characters that take one, two and three bytes. -/
def lengthEnds : List Nat := [0x7F, 0x7FF, 0xFFFF]

/-- How many characters the last byte, the last two and the last three bytes
    count. -/
def blockSizes : List Nat := [0x40, 0x1000, 0x40000]

/-- Where the blocks of a size divide a range: after the block in which it
    starts, or before the one in which it ends, unless it fills that block. -/
def blockEnd? (low high size : Nat) : Option Nat :=
  if low / size = high / size then none
  else if low % size ≠ 0 then some (low / size * size + size - 1)
  else if high % size ≠ size - 1 then some (high / size * size - 1)
  else none

/-- The end of the first part and the start of the second one, if a range has
    to be divided. -/
def division? (low high : Nat) : Option (Nat × Nat) :=
  if low < 0xE000 ∧ 0xD7FF < high then some (0xD7FF, 0xE000)
  else
    let stop := (lengthEnds.find? fun e => low ≤ e ∧ e < high) <|>
      if high ≤ 0x7F then none else blockSizes.findSome? (blockEnd? low high)
    stop.map fun e => (e, e + 1)

/-- The ranges of bytes of each part of a range, which is divided in so many
    steps at most. -/
def byteRangesIn : Nat → Nat → Nat → List (List (Nat × Nat))
  | 0, low, high => [(bytesOf low).zip (bytesOf high)]
  | steps + 1, low, high => match division? low high with
    | none => [(bytesOf low).zip (bytesOf high)]
    | some (stop, start) => byteRangesIn steps low stop ++ byteRangesIn steps start high

/-- The ranges of bytes of each part of a range. -/
def byteRanges (low high : Nat) : List (List (Nat × Nat)) :=
  -- There is one division for the surrogates, one at each length and two at each size of blocks.
  byteRangesIn 10 low high

end Utf8

end Text

end DocQuery
