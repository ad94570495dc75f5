/-!
# Hexadecimal

Hexadecimal digits of either case when reading, lower case when writing.

## Main definitions

* `Hex.value?`: The value of a hexadecimal digit.
* `Hex.digit`: The digit of a value below sixteen.
* `Hex.padded`: A number in a fixed count of digits.
* `Hex.read?`: A text of digits only as a number.
* `Hex.bytes?`: A text of pairs of digits as bytes.

## Theorems

* `Hex.value?_digit`: Every digit that is written reads back.
-/

namespace DocQuery

namespace Text

namespace Hex

/-- The value of a hexadecimal digit of either case. -/
def value? (c : Char) : Option Nat :=
  let n := c.toNat
  if 48 ≤ n ∧ n ≤ 57 then some (n - 48)
  else if 97 ≤ n ∧ n ≤ 102 then some (n - 87)
  else if 65 ≤ n ∧ n ≤ 70 then some (n - 55)
  else none

/-- Is this a hexadecimal digit of either case? -/
def isDigit (c : Char) : Bool :=
  (value? c).isSome

/-- The lower-case digit of a value below sixteen. -/
def digit (n : Nat) : Char :=
  if n < 10 then Char.ofNat (48 + n) else Char.ofNat (87 + n)

/-- The last `count` hexadecimal digits of `n`, leading zeros included. -/
def padded : Nat → Nat → List Char
  | 0, _ => []
  | count + 1, n => padded count (n / 16) ++ [digit (n % 16)]

/-- The number that a text of hexadecimal digits stands for, starting from
    the value of the digits before it. -/
def readFrom? (n : Nat) : List Char → Option Nat
  | [] => some n
  | c :: s => match value? c with
    | some v => readFrom? (n * 16 + v) s
    | none => none

/-- The number that a text of hexadecimal digits stands for; an empty text
    stands for none. -/
def read? : List Char → Option Nat
  | [] => none
  | s => readFrom? 0 s

/-- The bytes that a text of pairs of hexadecimal digits stands for. -/
def bytes? : List Char → Option (List UInt8)
  | [] => some []
  | a :: b :: s => match value? a, value? b, bytes? s with
    | some x, some y, some rest => some (UInt8.ofNat (x * 16 + y) :: rest)
    | _, _, _ => none
  | [_] => none

/-- The two digits of each byte. -/
def ofBytes (bytes : List UInt8) : List Char :=
  bytes.flatMap fun b => padded 2 b.toNat

theorem value?_digit (n : Nat) (h : n < 16) : value? (digit n) = some n := by
  -- There are sixteen digits to check.
  have : ∀ n : Fin 16, value? (digit n.val) = some n.val := by decide
  exact this ⟨n, h⟩

theorem length_padded (count n : Nat) : (padded count n).length = count := by
  induction count generalizing n with
  | zero => rfl
  | succ count ih => simp [padded, ih]

theorem readFrom?_append (n : Nat) (s t : List Char) :
    readFrom? n (s ++ t) = (readFrom? n s).bind fun m => readFrom? m t := by
  induction s generalizing n with
  | nil => rfl
  | cons c s ih =>
      simp only [List.cons_append, readFrom?]
      cases value? c with
      | none => rfl
      | some v => exact ih _

theorem readFrom?_padded (m count n : Nat) (h : n < Nat.pow 16 count) :
    readFrom? m (padded count n) = some (m * Nat.pow 16 count + n) := by
  induction count generalizing n with
  | zero =>
      have : n = 0 := by simpa using h
      simp [padded, readFrom?, this]
  | succ count ih =>
      have hpow : Nat.pow 16 (count + 1) = Nat.pow 16 count * 16 := rfl
      rw [hpow] at h ⊢
      have hq : n / 16 < Nat.pow 16 count := by omega
      simp only [padded, readFrom?_append, ih _ hq, Option.bind_some, readFrom?,
        value?_digit _ (Nat.mod_lt n (by decide : 16 > 0))]
      congr 1
      rw [Nat.add_mul, Nat.mul_assoc]
      omega

end Hex

end Text

end DocQuery
