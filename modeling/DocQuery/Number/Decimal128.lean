import DocQuery.Number.Decimal
import DocQuery.Text.Cut

/-!
# Decimals of 128 Bits

Numbers in the decimal interchange format of 128 bits. A finite one is a
coefficient of up to 34 digits times a power of ten, and the power belongs to
it: `1.0` and `1.00` are different numbers here, with different bits.

The library does not compute with them. They are read from a text, kept as
their bits and written as a text again.

The sign is the first bit. The 14 bits after it are the exponent, counted from
the least one, and the other 113 are the coefficient. Where the exponent would
start with two ones, which is beyond its range, the bits mean something else:
with four ones it is an infinity or a NaN, and otherwise the exponent stands two
places further back, before a coefficient that is too large. A coefficient that
is too large counts as zero.

Reading never rounds. Digits are moved between the coefficient and the exponent
to bring both into range, but only zeros may be dropped for that.

## Main definitions

* `Decimal128`: A decimal number, as its bits.
* `Decimal128.Kind`, `kind`, `pack`: What the bits mean, and the bits of a
  meaning.
* `Decimal128.ofBytes?`: The number with the given bytes, the lowest first.
* `Decimal128.read?`: The number that a text stands for.
* `Decimal128.text`: The text of a number.

## Theorems

* `kind_pack`, `negative_pack`: A meaning within the range of the format can be
  read off its bits.
-/

namespace DocQuery

namespace Number

/-- A decimal number of 128 bits, as its bits. -/
structure Decimal128 where
  bits : BitVec 128
deriving DecidableEq, Inhabited

namespace Decimal128

/-- The weight of the lowest bit of the exponent, above all coefficients. -/
def exponentBit : Nat := 0x20000000000000000000000000000

/-- The weight of the sign bit. -/
def signBit : Nat := 0x80000000000000000000000000000000

/-- The count of digits of a coefficient. -/
def precision : Nat := 34

/-- The largest coefficient. -/
def maxCoefficient : Nat := 9999999999999999999999999999999999

/-- The least exponent, and the negative of what is added to exponents to store
    them. -/
def minExponent : Int := -6176

/-- The largest exponent. -/
def maxExponent : Int := 6111

/-- What a decimal number is, apart from its sign. -/
inductive Kind where
  | nan (signalling : Bool)
  | infinity
  | finite (exponent : Int) (coefficient : Nat)
deriving DecidableEq

/-- A kind that the format has bits for. -/
def Kind.InRange : Kind → Prop
  | .finite exponent coefficient =>
    minExponent ≤ exponent ∧ exponent ≤ maxExponent ∧ coefficient ≤ maxCoefficient
  | _ => True

/-- Is the sign bit set? -/
def negative (d : Decimal128) : Bool :=
  signBit ≤ d.bits.toNat

/-- What the bits after the sign mean. -/
def kind (d : Decimal128) : Kind :=
  let n := d.bits.toNat % signBit
  let field := n / exponentBit
  if 0x3C00 ≤ field then
    if field / 0x200 % 2 = 1 then .nan (field / 0x100 % 2 = 1) else .infinity
  else if 0x3000 ≤ field then
    -- The coefficient begins with a one in the place of 2 ^ 113, so it is too large.
    .finite (n / (exponentBit / 4) % 0x4000 + minExponent) 0
  else
    let coefficient := n % exponentBit
    .finite (field + minExponent) (if coefficient ≤ maxCoefficient then coefficient else 0)

/-- The bits after the sign for a kind in the range of the format. -/
def Kind.bits : Kind → Nat
  | .nan signalling => (if signalling then 0x3F00 else 0x3E00) * exponentBit
  | .infinity => 0x3C00 * exponentBit
  | .finite exponent coefficient =>
    (exponent - minExponent).toNat * exponentBit + coefficient

/-- The number of a sign and a kind. -/
def pack (negative : Bool) (kind : Kind) : Decimal128 :=
  ⟨BitVec.ofNat 128 (if negative then signBit + kind.bits else kind.bits)⟩

/-- The number with the given sixteen bytes, the lowest first. -/
def ofBytes? (bytes : List UInt8) : Option Decimal128 :=
  if bytes.length = 16 then
    some ⟨BitVec.ofNat 128 (bytes.foldr (fun b n => n * 256 + b.toNat) 0)⟩
  else none

/-- The first `count` digits, if only zeros come after them. -/
def exactly? (count : Nat) (digits : List Char) : Option (List Char) :=
  if (digits.drop count).all (· == '0') then some (digits.take count) else none

/-- The digits without zeros in front, but with one digit at least. -/
def significant (digits : List Char) : List Char :=
  match digits.dropWhile (· == '0') with
  | [] => ['0']
  | s => s

/-- The largest exponent that is read, before digits are moved. -/
def maxRead : Nat := 0x7FFF

/-- Shorten the digits to the precision, into the exponent. -/
def shorten? (digits : List Char) (exponent : Int) : Option (List Char × Int) :=
  let excess := digits.length - precision
  if maxRead < excess then none
  else (exactly? precision digits).map fun s => (s, exponent + excess)

/-- Bring the exponent into its range, by digits dropped or zeros added behind.
    Zero is zero with any exponent, so it takes the nearest one. -/
def clamp? (digits : List Char) (exponent : Int) : Option (List Char × Int) :=
  if exponent < minExponent then
    let below := (minExponent - exponent).toNat
    if digits = ['0'] then some (digits, minExponent)
    else if digits.length < below then none
    else (exactly? (digits.length - below) digits).map fun s => (s, minExponent)
  else if maxExponent < exponent then
    let above := (exponent - maxExponent).toNat
    if digits = ['0'] then some (digits, maxExponent)
    else if precision < digits.length + above then none
    else some (digits ++ List.replicate above '0', maxExponent)
  else some (digits, exponent)

/-- The coefficient that digits stand for. A plus sign may precede them. -/
def coefficient? : List Char → Option Nat
  | '+' :: s => readNat? s
  | s => readNat? s

/-- The finite number of some digits, with a point perhaps, and an exponent. -/
def scaled? (s : List Char) (exponent : Int) : Option Kind :=
  let (whole, part) := (Text.cut? (· == '.') s).getD (s, [])
  if maxRead < part.length ∨ exponent - part.length < -(maxRead : Int) - 1 then none
  else do
    let (digits, exponent) ← shorten? (significant (whole ++ part)) (exponent - part.length)
    let (digits, exponent) ← clamp? digits exponent
    (coefficient? digits).map (.finite exponent)

/-- The kind that a text without a sign stands for, in lower case. -/
def kind? (s : List Char) : Option Kind :=
  if s = "nan".toList then some (.nan false)
  else if s = "snan".toList then some (.nan true)
  else if s = "inf".toList ∨ s = "infinity".toList then some .infinity
  else match Text.cut? (· == 'e') s with
    | none => scaled? s 0
    | some (digits, exponent) =>
      ((readInt? exponent).filter fun e => -(maxRead : Int) - 1 ≤ e ∧ e ≤ maxRead).bind
        (scaled? digits)

/-- The number that a text stands for. -/
def read? (s : List Char) : Option Decimal128 :=
  let (negative, rest) := Decimal.sign s
  (kind? (rest.map Binary64.lower)).map (pack negative)

/-- Digits with a point before the last `count` of them. -/
def pointed (digits : List Char) (count : Nat) : List Char :=
  if count = 0 then digits
  else if digits.length ≤ count then
    "0.".toList ++ List.replicate (count - digits.length) '0' ++ digits
  else
    digits.take (digits.length - count) ++ '.' :: digits.drop (digits.length - count)

/-- Digits with a point after the first, and the exponent of that one. -/
def scientific (digits : List Char) (exponent : Int) : List Char :=
  digits.take 1 ++ (if digits.length = 1 then [] else '.' :: digits.drop 1) ++
    'E' :: (if 0 < exponent then ['+'] else []) ++ Number.text exponent

/-- The text of a finite number without its sign. -/
def finiteText (exponent : Int) (coefficient : Nat) : List Char :=
  let s := digits coefficient
  let adjusted := exponent + s.length - 1
  if exponent ≤ 0 ∧ -6 ≤ adjusted then pointed s exponent.natAbs else scientific s adjusted

/-- The text of a number. NaN has no sign. -/
def text (d : Decimal128) : List Char :=
  let sign := if d.negative then ['-'] else []
  match d.kind with
  | .nan _ => "NaN".toList
  | .infinity => sign ++ "Infinity".toList
  | .finite exponent coefficient => sign ++ finiteText exponent coefficient

theorem Kind.bits_lt (k : Kind) (h : k.InRange) : k.bits < signBit := by
  rcases k with signalling | _ | ⟨exponent, coefficient⟩
  · cases signalling <;> decide
  · decide
  · simp only [InRange, minExponent, maxExponent, maxCoefficient] at h
    simp only [bits, minExponent, exponentBit, signBit]
    omega

theorem toNat_pack (negative : Bool) (k : Kind) (h : k.InRange) :
    (pack negative k).bits.toNat = if negative then signBit + k.bits else k.bits := by
  have hlt := k.bits_lt h
  rw [pack, BitVec.toNat_ofNat, Nat.mod_eq_of_lt]
  simp only [signBit] at hlt ⊢
  split <;> omega

/-- The sign that has been packed. -/
theorem negative_pack (negative : Bool) (k : Kind) (h : k.InRange) :
    (pack negative k).negative = negative := by
  have hlt := k.bits_lt h
  rw [Decimal128.negative, toNat_pack negative k h]
  cases negative
  · simpa using hlt
  · simp

/-- The kind that has been packed, when the format has bits for it. -/
theorem kind_pack (negative : Bool) (k : Kind) (h : k.InRange) :
    (pack negative k).kind = k := by
  have hmod : (pack negative k).bits.toNat % signBit = k.bits := by
    rw [toNat_pack negative k h]
    cases negative
    · exact Nat.mod_eq_of_lt (k.bits_lt h)
    · simp only [if_true, Nat.add_mod_left, Nat.mod_eq_of_lt (k.bits_lt h)]
  rw [kind, hmod]
  rcases k with signalling | _ | ⟨exponent, coefficient⟩
  · cases signalling <;> decide
  · decide
  · simp only [Kind.InRange, minExponent, maxExponent, maxCoefficient] at h
    -- The exponent is below the fields with two leading ones, and the coefficient is below it.
    have hfield : (Kind.finite exponent coefficient).bits / exponentBit =
        (exponent + 6176).toNat := by
      simp only [Kind.bits, minExponent, exponentBit]
      omega
    have hcoefficient : (Kind.finite exponent coefficient).bits % exponentBit = coefficient := by
      simp only [Kind.bits, minExponent, exponentBit]
      omega
    simp only [hfield, hcoefficient, maxCoefficient, minExponent, if_pos h.2.2]
    rw [if_neg (by omega), if_neg (by omega)]
    congr 1
    omega

end Decimal128

end Number

end DocQuery
