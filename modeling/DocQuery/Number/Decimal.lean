import DocQuery.Number.Binary64
import DocQuery.Number.Digits

/-!
# Decimal Notation

Numbers written with a decimal point or an exponent, as exact decimal
quantities, and their rounding to double precision.

The accepted form is an optional sign, digits with at most one point among,
before or after them, and an optional exponent of ten with a sign of its own.
At least one digit has to stand before the exponent; blanks, digit separators
and other bases are not accepted.

## Main definitions

* `Decimal`: A sign, digits and an exponent of ten.
* `Decimal.read?`: A text that is a decimal from end to end.
* `Decimal.toBinary64`: The nearest double-precision number.
* `Binary64.read?`: A decimal, or one of the words for infinity and NaN.
* `Binary64.readFinite?`: A text whose nearest number is finite.
-/

namespace DocQuery

namespace Number

/-- The quantity `digits * 10 ^ exponent`, with a sign. -/
structure Decimal where
  negative : Bool
  digits : Nat
  exponent : Int
deriving DecidableEq

namespace Decimal

/-- Split off a sign. -/
def sign : List Char → Bool × List Char
  | '-' :: s => (true, s)
  | '+' :: s => (false, s)
  | s => (false, s)

/-- Split off a point and the digits after it. -/
def fraction : List Char → List Char × List Char
  | '.' :: s => (s.takeWhile isDigit, s.dropWhile isDigit)
  | s => ([], s)

/-- The exponent that a text consists of, zero if it is empty. -/
def exponent? : List Char → Option Int
  | [] => some 0
  | c :: s => if c = 'e' ∨ c = 'E' then readInt? s else none

/-- A decimal without a sign. -/
def readUnsigned? (negative : Bool) (s : List Char) : Option Decimal :=
  let whole := s.takeWhile isDigit
  let (part, rest) := fraction (s.dropWhile isDigit)
  if (whole ++ part).isEmpty then none
  else (exponent? rest).map fun e => ⟨negative, ofDigits (whole ++ part), e - part.length⟩

/-- A text that is a decimal from end to end. -/
def read? (s : List Char) : Option Decimal :=
  let (negative, rest) := sign s
  readUnsigned? negative rest

/-- The double-precision number nearest to a decimal. Exponents that put any
    digits beyond the range are settled without computing the power. -/
def toBinary64 (x : Decimal) : Binary64 :=
  if x.digits = 0 then .ofMagnitude x.negative 0
  -- A digit that is not zero is enough to pass the largest number.
  else if 400 < x.exponent then .infinity x.negative
  -- The binary logarithm exceeds the decimal one, so the quantity is below the least number.
  else if x.exponent + x.digits.log2 < -400 then .ofMagnitude x.negative 0
  else .ofRatio x.negative (x.digits * Nat.pow 10 x.exponent.toNat) (Nat.pow 10 (-x.exponent).toNat)

end Decimal

namespace Binary64

/-- The lower-case form of an ASCII letter. -/
def lower (c : Char) : Char :=
  if 65 ≤ c.toNat ∧ c.toNat ≤ 90 then Char.ofNat (c.toNat + 32) else c

/-- The words for infinity and NaN, in any mixture of cases. -/
def word? (negative : Bool) (s : List Char) : Option Binary64 :=
  let w := String.ofList (s.map lower)
  if w = "inf" ∨ w = "infinity" then some (infinity negative)
  else if w = "nan" then some nan
  else none

/-- A text that is a number from end to end: a decimal, however large, or a
    word for infinity or NaN, with an optional sign. -/
def read? (s : List Char) : Option Binary64 :=
  match Decimal.read? s with
  | some x => some x.toBinary64
  | none =>
    let (negative, rest) := Decimal.sign s
    word? negative rest

/-- A decimal whose nearest number is finite. The words are not accepted. -/
def readFinite? (s : List Char) : Option Binary64 :=
  ((Decimal.read? s).map Decimal.toBinary64).filter isFinite

end Binary64

end Number

end DocQuery
