/-!
# Binary Floating-Point Numbers

Double-precision numbers as their 64 bits, with the operations the library
needs done in exact integer arithmetic. Nothing rests on the machine's own
floating point, so order, rounding and integer parts can be reasoned about.

Dropping the sign bit leaves the *magnitude*, a natural number that grows with
the absolute value from zero over the subnormal and normal numbers to the
infinity, and beyond it the NaNs. Giving it the sign back yields the `key`,
on which comparison is comparison of integers and the two zeros coincide.

A finite number is `significand * 2 ^ exponent`. Rounding goes through
`ofRatio`, the number nearest to a quotient of natural numbers; because
magnitudes are contiguous, carrying into the next power of two and overflow
into the infinity need no case of their own.

## Main definitions

* `Binary64`: A double-precision number.
* `key`, `compare?`: The order of numbers, undefined on NaN.
* `ofRatio`: The nearest number to a quotient, halves to the even neighbour.
* `ofInt`, `mul`, `div`: Rounded conversion, product and quotient.
* `isIntegral`, `truncate`: The integer part.

## Theorems

* `compare?_eq_none_iff`: Only NaN cannot be compared.
* `magnitude_ofMagnitude`, `negative_ofMagnitude`: What `ofMagnitude` packs.
-/

namespace DocQuery

namespace Number

/-- A double-precision number, as its bits. -/
structure Binary64 where
  bits : UInt64
deriving DecidableEq, Inhabited

namespace Binary64

/-- The weight of the sign bit, above all magnitudes. -/
def signBit : Nat := 0x8000000000000000

/-- The weight of the binary digit before the point of a normal number, which
    is not stored. -/
def hiddenBit : Nat := 0x10000000000000

/-- The magnitude of the infinities. Those above it belong to NaN. -/
def infinite : Nat := 0x7FF0000000000000

/-- Is the sign bit set? -/
def negative (x : Binary64) : Bool :=
  signBit ≤ x.bits.toNat

/-- The bits without the sign. -/
def magnitude (x : Binary64) : Nat :=
  x.bits.toNat % signBit

def isNaN (x : Binary64) : Bool :=
  infinite < x.magnitude

def isFinite (x : Binary64) : Bool :=
  x.magnitude < infinite

/-- The number with this sign and magnitude. -/
def ofMagnitude (negative : Bool) (m : Nat) : Binary64 :=
  ⟨UInt64.ofNat (if negative then signBit + m else m)⟩

def zero : Binary64 := ofMagnitude false 0

def infinity (negative : Bool) : Binary64 := ofMagnitude negative infinite

def nan : Binary64 := ofMagnitude false (infinite + hiddenBit / 2)

/-- The other number of the same magnitude. -/
def neg (x : Binary64) : Binary64 :=
  ofMagnitude (!x.negative) x.magnitude

/-- The magnitude with its sign. Numbers other than NaN compare as their
    keys do. -/
def key (x : Binary64) : Int :=
  if x.negative then -(x.magnitude : Int) else x.magnitude

/-- The order of two numbers, unless one of them is NaN. -/
def compare? (x y : Binary64) : Option Ordering :=
  if x.isNaN || y.isNaN then none else some (compare x.key y.key)

/-- Equality of numbers: the zeros are equal and NaN equals nothing. -/
def same (x y : Binary64) : Bool :=
  compare? x y == some .eq

/-- The integer that a finite number multiplies a power of two by. -/
def significand (x : Binary64) : Nat :=
  let m := x.magnitude
  if m < hiddenBit then m else hiddenBit + m % hiddenBit

/-- The power of two that a finite number is a multiple of. -/
def exponent (x : Binary64) : Int :=
  let m := x.magnitude
  if m < hiddenBit then -1074 else (m / hiddenBit : Nat) - 1075

/-- The natural number nearest to `n / d`, halves to the even neighbour. -/
def roundDiv (n d : Nat) : Nat :=
  let q := n / d
  let r := n % d
  if 2 * r < d ∨ (2 * r = d ∧ q % 2 = 0) then q else q + 1

/-- The largest `k` with `2 ^ k ≤ n / d`, for `n` and `d` other than zero. -/
def floorLog2 (n d : Nat) : Int :=
  let k : Int := (n.log2 : Int) - (d.log2 : Int)
  if n <<< (-k).toNat < d <<< k.toNat then k - 1 else k

/-- The number nearest to `n / d`, halves to the even neighbour, and infinite
    when that lies beyond the largest finite one. -/
def ofRatio (negative : Bool) (n d : Nat) : Binary64 :=
  if n = 0 then ofMagnitude negative 0
  else
    -- The last place: 52 below the first binary digit, and not below that of the subnormals.
    let q := max (floorLog2 n d - 52) (-1074)
    let r := roundDiv (n <<< (-q).toNat) (d <<< q.toNat)
    -- Rounding up to a power of two carries into the exponent, which is just what is needed.
    ofMagnitude negative (min ((q + 1074).toNat * hiddenBit + r) infinite)

/-- The number nearest to an integer. -/
def ofInt (n : Int) : Binary64 :=
  ofRatio (n < 0) n.natAbs 1

/-- The rounded product of finite numbers. -/
def mul (x y : Binary64) : Binary64 :=
  let e := x.exponent + y.exponent
  ofRatio (x.negative != y.negative)
    ((x.significand * y.significand) <<< e.toNat) (1 <<< (-e).toNat)

/-- The rounded quotient of finite numbers, for a divisor other than zero. -/
def div (x y : Binary64) : Binary64 :=
  let e := x.exponent - y.exponent
  ofRatio (x.negative != y.negative)
    (x.significand <<< e.toNat) (y.significand <<< (-e).toNat)

/-- Is this a finite number without a fractional part? -/
def isIntegral (x : Binary64) : Bool :=
  x.isFinite && x.significand % (1 <<< (-x.exponent).toNat) == 0

/-- The absolute value of a finite number without its fractional part. -/
def truncate (x : Binary64) : Nat :=
  x.significand <<< x.exponent.toNat >>> (-x.exponent).toNat

theorem compare?_eq_none_iff (x y : Binary64) :
    compare? x y = none ↔ x.isNaN = true ∨ y.isNaN = true := by
  cases hx : x.isNaN <;> cases hy : y.isNaN <;> simp [compare?, hx, hy]

theorem toNat_bits_ofMagnitude (negative : Bool) (m : Nat) (h : m < signBit) :
    (ofMagnitude negative m).bits.toNat = if negative then signBit + m else m := by
  have hlt : (if negative then signBit + m else m) < UInt64.size := by
    simp only [signBit, UInt64.size] at h ⊢
    split <;> omega
  rw [ofMagnitude, UInt64.toNat_ofNat', Nat.mod_eq_of_lt hlt]

theorem magnitude_ofMagnitude (negative : Bool) (m : Nat) (h : m < signBit) :
    (ofMagnitude negative m).magnitude = m := by
  rw [magnitude, toNat_bits_ofMagnitude negative m h]
  split
  · rw [Nat.add_mod_left, Nat.mod_eq_of_lt h]
  · exact Nat.mod_eq_of_lt h

theorem negative_ofMagnitude (negative : Bool) (m : Nat) (h : m < signBit) :
    (ofMagnitude negative m).negative = negative := by
  rw [Binary64.negative, toNat_bits_ofMagnitude negative m h]
  cases negative
  · simp only [Bool.false_eq_true, if_false, decide_eq_false_iff_not]
    omega
  · simp only [if_true, decide_eq_true_eq]
    omega

end Binary64

end Number

end DocQuery
