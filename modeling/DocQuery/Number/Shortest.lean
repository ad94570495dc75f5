import DocQuery.Number.Binary64
import DocQuery.Number.Digits

/-!
# Shortest Decimal Digits

The decimal text of a double-precision number that has the fewest digits
among those that read back as the same number.

The numbers that read back form an interval around the exact value: it
reaches half way to the next number on either side, and includes its ends when
the significand is even, since halves go to the even neighbour. For each count
of digits from one to seventeen the two points of that decimal grid next to
the value are tried. If any point of a grid lies in the interval, one of those
two does, so the first grid with a hit gives the fewest digits, and the nearer
of two hits is taken.

`DecimalLayout` holds the decisions of a number format: which exponents are written
positionally, and how the exponent looks otherwise.

## Main definitions

* `shortest`: The digits and the exponent of ten.
* `DecimalLayout.render`: The text of a finite number.
-/

namespace DocQuery

namespace Number

/-- A value and the interval that rounds to it, all four as multiples of one
    unit. The ends belong to the interval when `closed`. -/
structure Interval where
  low : Nat
  value : Nat
  high : Nat
  closed : Bool

namespace Interval

/-- The interval around the absolute value of a finite number, in units of a
    quarter of its last place. Below a power of two the next number is half as
    far away. -/
def ofBinary64 (x : Binary64) : Interval :=
  let m := x.significand
  let below := if m = Binary64.hiddenBit ∧ x.exponent ≠ -1074 then 1 else 2
  ⟨4 * m - below, 4 * m, 4 * m + 2, m % 2 == 0⟩

/-- The same interval in a unit `k` times as small. -/
def scale (i : Interval) (k : Nat) : Interval :=
  ⟨i.low * k, i.value * k, i.high * k, i.closed⟩

/-- Does the point `p` lie in the interval? -/
def contains (i : Interval) (p : Nat) : Bool :=
  if i.closed then i.low ≤ p && p ≤ i.high else i.low < p && p < i.high

/-- Of the two multiples of `g` on either side of the value, the nearer one
    that lies in the interval, as the number of times it holds `g`. -/
def nearest? (i : Interval) (g : Nat) : Option Nat :=
  let c := i.value / g
  let below := i.value - c * g
  let above := (c + 1) * g - i.value
  match i.contains (c * g), i.contains ((c + 1) * g) with
  | false, false => none
  | true, false => some c
  | false, true => some (c + 1)
  | true, true =>
    if below < above ∨ (below = above ∧ c % 2 = 0) then some c else some (c + 1)

/-- The grids of multiples of `10 ^ e` with decreasing `e`, at most `fuel` of
    them: the first that meets the interval, whose unit is `2 ^ q`. -/
def search (i : Interval) (q : Int) : Nat → Int → Nat × Int
  | 0, e => (0, e)
  | fuel + 1, e =>
    -- Both the grid and the interval are brought to a unit of which they are whole multiples.
    let scaled := i.scale (Nat.pow 10 (-e).toNat <<< q.toNat)
    match scaled.nearest? (Nat.pow 10 e.toNat <<< (-q).toNat) with
    | some n => (n, e)
    | none => search i q fuel (e - 1)

end Interval

/-- Move factors of ten from a number to its exponent, at most `fuel` of
    them. -/
def stripZeros : Nat → Nat → Int → Nat × Int
  | 0, n, e => (n, e)
  | fuel + 1, n, e => if n % 10 = 0 ∧ n ≠ 0 then stripZeros fuel (n / 10) (e + 1) else (n, e)

/-- The position of the first decimal digit of `n * 2 ^ q`, counted from the
    units upwards. It is sought 400 places below the point, where every number
    that is not zero has one. -/
def leadingPosition (n : Nat) (q : Int) : Int :=
  (digits ((n * Nat.pow 10 400) <<< q.toNat >>> (-q).toNat)).length - 401

/-- The fewest digits, and their exponent of ten, that read back as the
    absolute value of a finite number. -/
def shortest (x : Binary64) : Nat × Int :=
  if x.significand = 0 then (0, 0)
  else
    let i := Interval.ofBinary64 x
    -- A quarter of the last place is the unit of the interval.
    let q := x.exponent - 2
    let (n, e) := i.search q 18 (leadingPosition i.value q)
    stripZeros 18 n e

/-- Which exponents of the first digit are written positionally. -/
structure DecimalLayout where
  least : Int
  greatest : Int

namespace DecimalLayout

/-- Digits with the point after the first `k` of them, and zeros where there
    are no digits. -/
def positional (ds : List Char) (k : Int) : List Char :=
  if k ≤ 0 then ['0', '.'] ++ List.replicate (-k).toNat '0' ++ ds
  else if ds.length ≤ k then
    ds ++ List.replicate (k - ds.length).toNat '0' ++ ['.', '0']
  else ds.take k.toNat ++ ['.'] ++ ds.drop k.toNat

/-- Digits with the point after the first of them, and the exponent with its
    sign. -/
def scientific (ds : List Char) (e : Int) : List Char :=
  let mantissa := match ds with
    | [] => []
    | [d] => [d]
    | d :: rest => d :: '.' :: rest
  mantissa ++ ['e', if e < 0 then '-' else '+'] ++ digits e.natAbs

/-- The text of a finite number: a sign when it is negative, and always either
    a point or an exponent. -/
def render (layout : DecimalLayout) (x : Binary64) : List Char :=
  let (n, e) := shortest x
  let ds := digits n
  let first := e + ds.length - 1
  let body :=
    if layout.least ≤ first ∧ first ≤ layout.greatest then positional ds (first + 1)
    else scientific ds first
  if x.negative then '-' :: body else body

end DecimalLayout

end Number

end DocQuery
