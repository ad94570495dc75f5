/-!
# UTF-8

Reading bytes as UTF-8. A sequence that is not well formed is reported once
for each maximal part of it that could have started a character, which is the
division that replacement by U+FFFD asks for: the byte that breaks a sequence
is read again as a possible start.

## Main definitions

* `scan`: The characters of a byte sequence, with `none` for each ill-formed
  part.
* `decodeLossy`: The same with U+FFFD for each ill-formed part.
* `decode?`: The characters, if all of them are well formed.
* `encode`: The bytes of a text.
-/

namespace DocQuery

namespace Text

namespace Utf8

/-- A character whose bytes are still arriving: how many are owed, the range
    in which the next one lies, and the bits so far. -/
structure Pending where
  owed : Nat
  low : Nat
  high : Nat
  bits : Nat

/-- What a first byte says about its character. -/
inductive Lead where
  | whole (c : Char)
  | pending (p : Pending)
  | invalid

/-- Read a first byte. The ranges of the second byte leave out overlong forms,
    surrogates and what lies above U+10FFFF. -/
def lead (byte : UInt8) : Lead :=
  let b := byte.toNat
  if b < 0x80 then .whole (Char.ofNat b)
  else if b < 0xC2 then .invalid
  else if b < 0xE0 then .pending ⟨1, 0x80, 0xBF, b - 0xC0⟩
  else if b = 0xE0 then .pending ⟨2, 0xA0, 0xBF, 0⟩
  else if b = 0xED then .pending ⟨2, 0x80, 0x9F, 0xD⟩
  else if b < 0xF0 then .pending ⟨2, 0x80, 0xBF, b - 0xE0⟩
  else if b = 0xF0 then .pending ⟨3, 0x90, 0xBF, 0⟩
  else if b < 0xF4 then .pending ⟨3, 0x80, 0xBF, b - 0xF0⟩
  else if b = 0xF4 then .pending ⟨3, 0x80, 0x8F, 4⟩
  else .invalid

/-- Read bytes, some of which may be owed to a character already begun. -/
def scanFrom : Option Pending → List UInt8 → List (Option Char)
  | none, [] => []
  | some _, [] => [none]
  | none, b :: bytes => match lead b with
    | .whole c => some c :: scanFrom none bytes
    | .pending p => scanFrom (some p) bytes
    | .invalid => none :: scanFrom none bytes
  | some p, b :: bytes =>
    if p.low ≤ b.toNat ∧ b.toNat ≤ p.high then
      let bits := p.bits * 64 + (b.toNat - 0x80)
      if p.owed ≤ 1 then some (Char.ofNat bits) :: scanFrom none bytes
      else scanFrom (some ⟨p.owed - 1, 0x80, 0xBF, bits⟩) bytes
    -- The byte that breaks a character may begin another one.
    else none :: match lead b with
      | .whole c => some c :: scanFrom none bytes
      | .pending p => scanFrom (some p) bytes
      | .invalid => none :: scanFrom none bytes

/-- The characters of a byte sequence, with `none` for each ill-formed part. -/
def scan (bytes : List UInt8) : List (Option Char) :=
  scanFrom none bytes

/-- The text of a byte sequence, with U+FFFD for each ill-formed part. -/
def decodeLossy (bytes : List UInt8) : List Char :=
  (scan bytes).map fun c => c.getD (Char.ofNat 0xFFFD)

/-- The text of a byte sequence that is well formed throughout. -/
def decode? (bytes : List UInt8) : Option (List Char) :=
  (scan bytes).mapM id

/-- The bytes of a text. -/
def encode (s : List Char) : List UInt8 :=
  s.flatMap String.utf8EncodeChar

end Utf8

end Text

end DocQuery
