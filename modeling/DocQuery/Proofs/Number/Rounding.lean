import DocQuery.Number.Decimal
import Mathlib.Tactic.Linarith
import Mathlib.Tactic.Ring

/-!
# Rounding of Natural Numbers

A natural number is rounded to 53 binary digits, of which the first is not
zero, so nothing but zero is rounded to zero. The magnitude is the number of
those digits together with the place of the first one, and it reaches the
infinity at the number halfway between the largest finite number and the power
of two above it.

Everything is done with natural numbers. Rounding a quotient needs a comparison
of twice the remainder with the divisor, and numbers are scaled by powers of
two, so there are no fractions and no reals. The carry is where care is needed:
the leading digits of a number can be rounded up to one more place, and then the
place of the first digit is one higher. Since the magnitude adds the two, the
carry is right without being looked at.

What the rest of the development uses are two facts. One is which decimals are
finite after rounding, since others are not read as numbers. The other is that
rounding keeps the order, since integers and double-precision numbers are
compared after rounding.

## Main definitions

* `Binary64.overflow`: The least natural number that is rounded to the infinity.
* `Binary64.leading`: The leading binary digits of a number, rounded.

## Theorems

* `Binary64.roundDiv_lt_iff`: Which quotients are rounded below an even number.
* `Binary64.magnitude_ofRatio_one`: The magnitude of a rounded number.
* `Binary64.isFinite_ofRatio_one`: Which numbers are rounded to finite ones.
* `Binary64.magnitude_ofRatio_one_mono`, `key_ofInt_mono`: Rounding keeps the order.
* `Binary64.magnitude_ofInt_eq_zero_iff`, `compare?_zero_eq_some_eq`: Which
  integers are rounded to zero, and which numbers equal it.
* `Decimal.isFinite_toBinary64`: Which decimals are rounded to finite numbers.
-/

namespace DocQuery

namespace Number

namespace Binary64

/-- The least natural number that is rounded to the infinity: halfway between
    the largest finite number and the power of two above it. -/
def overflow : Nat := (2 ^ 54 - 1) * 2 ^ 970

/-- Powers of two up to the 970th stay below. -/
theorem pow_le_overflow (k : Nat) (h : k ≤ 970) : 2 ^ k ≤ overflow := by
  have hpow : 2 ^ k ≤ 2 ^ 970 := pow_le_pow_right₀ (by decide) h
  unfold overflow
  generalize 2 ^ 970 = unit at hpow ⊢
  omega

theorem overflow_pos : 0 < overflow :=
  pow_le_overflow 0 (by decide)

theorem overflow_le_pow : overflow ≤ 2 ^ (54 + 970) := by
  unfold overflow
  rw [pow_add]
  exact Nat.mul_le_mul_right (2 ^ 970) (by decide)

/-- The 53 leading binary digits of a number, rounded. -/
def leading (n : Nat) : Nat :=
  roundDiv (n <<< (52 - n.log2)) (1 <<< (n.log2 - 52))

theorem div_le_roundDiv (n d : Nat) : n / d ≤ roundDiv n d := by
  unfold roundDiv
  dsimp only
  split
  · exact Nat.le_refl _
  · exact Nat.le_succ _

theorem roundDiv_le (n d : Nat) : roundDiv n d ≤ n / d + 1 := by
  unfold roundDiv
  dsimp only
  split
  · exact Nat.le_succ _
  · exact Nat.le_refl _

/-- A quotient is rounded below an even number if it is below the number by
    more than a half. -/
theorem roundDiv_lt_iff (n d m : Nat) (hd : 0 < d) (hm : m % 2 = 0) :
    roundDiv n d < m ↔ 2 * n + d < 2 * m * d := by
  have hn : d * (n / d) + n % d = n := Nat.div_add_mod n d
  have hr : n % d < d := Nat.mod_lt n hd
  unfold roundDiv
  dsimp only
  generalize n / d = q at hn ⊢
  generalize n % d = r at hn hr ⊢
  -- Only the quotient just below the number needs a look at the remainder.
  rcases Nat.lt_trichotomy (q + 1) m with hlt | heq | hgt
  · have hmul : d * (q + 2) ≤ d * m := Nat.mul_le_mul_left d hlt
    refine iff_of_true (by split <;> omega) ?_
    nlinarith
  · subst heq
    have hodd : q % 2 = 1 := by omega
    have hsum : 2 * (q + 1) * d = 2 * (d * q) + 2 * d := by ring
    rw [hsum]
    split <;> omega
  · -- From the number on, rounding cannot go below it.
    have hmul : d * m ≤ d * q := Nat.mul_le_mul_left d (Nat.le_of_lt_succ hgt)
    refine iff_of_false (by split <;> omega) ?_
    nlinarith

/-- The place of the first digit of a number. -/
theorem floorLog2_one (n : Nat) (hn : n ≠ 0) : floorLog2 n 1 = n.log2 := by
  have hlog : (1 : Nat).log2 = 0 := by decide
  have hleft : (-((n.log2 : Int) - ((0 : Nat) : Int))).toNat = 0 := by omega
  have hright : ((n.log2 : Int) - ((0 : Nat) : Int)).toNat = n.log2 := by omega
  unfold floorLog2
  dsimp only
  rw [hlog, hleft, hright, Nat.shiftLeft_zero, Nat.one_shiftLeft,
    if_neg (Nat.not_lt.mpr (Nat.log2_self_le hn))]
  omega

/-- Before they are rounded, the leading digits are as many as a number keeps,
    and the first of them is not zero. -/
theorem hiddenBit_le_leading (n : Nat) (hn : n ≠ 0) :
    hiddenBit ≤ leading n ∧ leading n ≤ 2 * hiddenBit := by
  have hpos : 0 < 2 ^ (n.log2 - 52) := Nat.two_pow_pos _
  -- One of the shifts is by nothing, and together they take the first digit to place 52.
  have hplaces : n.log2 + (52 - n.log2) = 52 + (n.log2 - 52) := by omega
  have hlower : 2 ^ 52 ≤ n * 2 ^ (52 - n.log2) / 2 ^ (n.log2 - 52) := by
    rw [Nat.le_div_iff_mul_le hpos, ← Nat.pow_add, ← hplaces, Nat.pow_add]
    exact Nat.mul_le_mul_right _ (Nat.log2_self_le hn)
  have hupper : n * 2 ^ (52 - n.log2) / 2 ^ (n.log2 - 52) < 2 ^ 53 := by
    have hnext : 53 + (n.log2 - 52) = (n.log2 + 1) + (52 - n.log2) := by omega
    rw [Nat.div_lt_iff_lt_mul hpos, ← Nat.pow_add, hnext, Nat.pow_add]
    exact Nat.mul_lt_mul_of_pos_right Nat.lt_log2_self (Nat.two_pow_pos _)
  have hdiv := div_le_roundDiv (n * 2 ^ (52 - n.log2)) (2 ^ (n.log2 - 52))
  have hround := roundDiv_le (n * 2 ^ (52 - n.log2)) (2 ^ (n.log2 - 52))
  unfold leading hiddenBit
  rw [Nat.shiftLeft_eq, Nat.one_shiftLeft]
  omega

/-- Rounding carries the leading digits of a large number into the next place,
    unless the number is below it by more than half a unit. -/
theorem leading_lt_iff (n : Nat) (h : 52 ≤ n.log2) :
    leading n < 2 * hiddenBit ↔
      2 * n + 2 ^ (n.log2 - 52) < 2 ^ 54 * 2 ^ (n.log2 - 52) := by
  have hleft : 52 - n.log2 = 0 := by omega
  unfold leading
  rw [hleft, Nat.shiftLeft_zero, Nat.one_shiftLeft,
    roundDiv_lt_iff _ _ _ (Nat.two_pow_pos _) rfl]
  rfl

/-- The magnitude of a rounded number is made of the place of the first digit
    and the leading digits. -/
theorem magnitude_ofRatio_one (negative : Bool) (n : Nat) (hn : n ≠ 0) :
    (ofRatio negative n 1).magnitude = min ((n.log2 + 1022) * hiddenBit + leading n) infinite := by
  -- The number is one at least, so its last digit is well above the least of all.
  have hlast : max (floorLog2 n 1 - 52) (-1074) = (n.log2 : Int) - 52 := by
    rw [floorLog2_one n hn]
    omega
  have hleft : (-((n.log2 : Int) - 52)).toNat = 52 - n.log2 := by omega
  have hright : ((n.log2 : Int) - 52).toNat = n.log2 - 52 := by omega
  have hplace : ((n.log2 : Int) - 52 + 1074).toNat = n.log2 + 1022 := by omega
  have hsmall : min ((n.log2 + 1022) * hiddenBit + leading n) infinite < signBit :=
    Nat.lt_of_le_of_lt (Nat.min_le_right _ _) (by decide)
  unfold ofRatio
  dsimp only
  rw [if_neg hn, hlast, hleft, hright, hplace]
  exact magnitude_ofMagnitude negative _ hsmall

/-- A natural number is rounded to a finite one exactly when it lies below the
    least one that is rounded to the infinity. -/
theorem isFinite_ofRatio_one (negative : Bool) (n : Nat) :
    (ofRatio negative n 1).isFinite = true ↔ n < overflow := by
  by_cases hn : n = 0
  · subst hn
    have hzero : (ofRatio negative 0 1).magnitude = 0 :=
      magnitude_ofMagnitude negative 0 (by decide)
    unfold isFinite
    rw [hzero]
    exact iff_of_true rfl overflow_pos
  have hleading := hiddenBit_le_leading n hn
  have hlog := Nat.log2_self_le hn
  have hnext : n < 2 ^ (n.log2 + 1) := Nat.lt_log2_self
  unfold isFinite overflow
  rw [decide_eq_true_eq, magnitude_ofRatio_one negative n hn]
  -- All powers at stake are small multiples of one of them.
  have hpow : ∀ k, 2 ^ (k + 970) = 2 ^ k * 2 ^ 970 := fun k => pow_add 2 k 970
  have hpos : 0 < 2 ^ 970 := pow_pos (by decide) 970
  generalize 2 ^ 970 = unit at hpow hpos ⊢
  rcases Nat.lt_trichotomy n.log2 1023 with hlt | heq | hgt
  · -- The number is finite even if the leading digits are carried.
    have hsmall : 2 ^ (n.log2 + 1) ≤ 2 ^ (53 + 970) := pow_le_pow_right₀ (by decide) hlt
    rw [hpow] at hsmall
    unfold hiddenBit infinite at *
    omega
  · -- The leading digits are carried into the next place, or they are not.
    have hcarry := leading_lt_iff n (by omega)
    have hplace : n.log2 - 52 = 1 + 970 := by omega
    rw [hplace, hpow] at hcarry
    rw [heq]
    unfold hiddenBit infinite at *
    omega
  · -- A first digit further to the left is beyond everything finite.
    have hlarge : 2 ^ (54 + 970) ≤ 2 ^ n.log2 := pow_le_pow_right₀ (by decide) hgt
    rw [hpow] at hlarge
    unfold hiddenBit infinite at *
    omega

/-- Rounding by one divisor keeps the order. -/
theorem roundDiv_mono (d : Nat) {m n : Nat} (h : m ≤ n) : roundDiv m d ≤ roundDiv n d := by
  have hm : d * (m / d) + m % d = m := Nat.div_add_mod m d
  have hn : d * (n / d) + n % d = n := Nat.div_add_mod n d
  rcases Nat.lt_or_ge (m / d) (n / d) with hlt | hge
  · exact (roundDiv_le m d).trans (hlt.trans_le (div_le_roundDiv n d))
  · -- The quotients are the same, so the remainders decide.
    have heq : m / d = n / d := Nat.le_antisymm (Nat.div_le_div_right h) hge
    unfold roundDiv
    dsimp only
    rw [heq] at hm ⊢
    split
    · split <;> omega
    · split <;> omega

/-- Of two numbers whose first digits stand at one place, the greater has the
    greater leading digits. -/
theorem leading_mono {m n : Nat} (h : m ≤ n) (hlog : m.log2 = n.log2) : leading m ≤ leading n := by
  unfold leading
  simp only [hlog, Nat.shiftLeft_eq]
  exact roundDiv_mono _ (Nat.mul_le_mul_right _ h)

/-- The greater of two natural numbers is not rounded below the other. -/
theorem magnitude_ofRatio_one_mono (negative negative' : Bool) {m n : Nat} (h : m ≤ n) :
    (ofRatio negative m 1).magnitude ≤ (ofRatio negative' n 1).magnitude := by
  by_cases hm : m = 0
  · subst hm
    have hzero : (ofRatio negative 0 1).magnitude = 0 := magnitude_ofMagnitude _ 0 (by decide)
    rw [hzero]
    exact Nat.zero_le _
  have hn : n ≠ 0 := by omega
  rw [magnitude_ofRatio_one negative m hm, magnitude_ofRatio_one negative' n hn]
  -- The first digit of the smaller number is not further to the left.
  have hlog : m.log2 < n.log2 + 1 := by
    refine (Nat.pow_lt_pow_iff_right (by decide : 1 < 2)).mp ?_
    calc 2 ^ m.log2 ≤ m := Nat.log2_self_le hm
      _ ≤ n := h
      _ < 2 ^ (n.log2 + 1) := Nat.lt_log2_self
  rcases Nat.lt_or_eq_of_le (Nat.le_of_lt_succ hlog) with hlt | heq
  · -- A carry of the leading digits goes no further than the next place.
    have hleft := hiddenBit_le_leading m hm
    have hright := hiddenBit_le_leading n hn
    unfold hiddenBit at *
    omega
  · -- The first digits stand at one place, so the leading digits decide.
    have hleading := leading_mono h heq
    rw [heq]
    omega

/-- No magnitude goes beyond the infinity. -/
theorem magnitude_ofRatio_le (negative : Bool) (n d : Nat) :
    (ofRatio negative n d).magnitude ≤ infinite := by
  unfold ofRatio
  split
  · rw [magnitude_ofMagnitude _ 0 (by decide)]
    exact Nat.zero_le _
  · dsimp only
    rw [magnitude_ofMagnitude _ _ (Nat.lt_of_le_of_lt (Nat.min_le_right _ _) (by decide))]
    exact Nat.min_le_right _ _

theorem negative_ofRatio (negative : Bool) (n d : Nat) :
    (ofRatio negative n d).negative = negative := by
  unfold ofRatio
  split
  · exact negative_ofMagnitude _ 0 (by decide)
  · exact negative_ofMagnitude _ _ (Nat.lt_of_le_of_lt (Nat.min_le_right _ _) (by decide))

theorem isNaN_ofInt (n : Int) : (ofInt n).isNaN = false :=
  decide_eq_false (Nat.not_lt.mpr (magnitude_ofRatio_le _ _ _))

/-- The greater of two integers is not rounded below the other. -/
theorem key_ofInt_mono {m n : Int} (h : m ≤ n) : (ofInt m).key ≤ (ofInt n).key := by
  -- Below zero the greater number has the smaller magnitude.
  have hdown : n.natAbs ≤ m.natAbs → (ofInt n).magnitude ≤ (ofInt m).magnitude :=
    magnitude_ofRatio_one_mono _ _
  have hup : m.natAbs ≤ n.natAbs → (ofInt m).magnitude ≤ (ofInt n).magnitude :=
    magnitude_ofRatio_one_mono _ _
  have hm : (ofInt m).negative = decide (m < 0) := negative_ofRatio _ _ _
  have hn : (ofInt n).negative = decide (n < 0) := negative_ofRatio _ _ _
  -- The key of a negative number is its magnitude counted downward.
  unfold key
  rw [hm, hn]
  simp only [decide_eq_true_eq]
  split
  · split <;> omega
  · split <;> omega

/-- Rounding takes only zero to zero. -/
theorem magnitude_ofInt_eq_zero_iff (n : Int) : (ofInt n).magnitude = 0 ↔ n = 0 := by
  unfold ofInt
  by_cases hn : n = 0
  · subst hn
    exact iff_of_true (magnitude_ofMagnitude _ 0 (by decide)) rfl
  · -- The leading digits of any other number are not zero.
    have hleading := hiddenBit_le_leading n.natAbs (Int.natAbs_ne_zero.mpr hn)
    rw [magnitude_ofRatio_one _ _ (Int.natAbs_ne_zero.mpr hn)]
    unfold hiddenBit infinite at *
    omega

/-- A number equals zero if its magnitude is zero. -/
theorem compare?_zero_eq_some_eq (x : Binary64) :
    x.compare? zero = some .eq ↔ x.magnitude = 0 := by
  have hzero : zero.isNaN = false := by decide
  have hkey : zero.key = 0 := by decide
  unfold compare?
  rw [hzero, hkey, Bool.or_false]
  rcases hnan : x.isNaN with _ | _
  · rw [if_neg Bool.false_ne_true, Option.some.injEq, Int.compare_eq_eq]
    unfold key
    split <;> omega
  · rw [if_pos rfl]
    unfold isNaN at hnan
    rw [decide_eq_true_eq] at hnan
    exact iff_of_false nofun (by omega)

end Binary64

namespace Decimal

/-- A decimal without digits after the point is rounded to a finite number
    exactly when it lies below the least one that is rounded to the infinity. -/
theorem isFinite_toBinary64 (x : Decimal) (h : 0 ≤ x.exponent) :
    x.toBinary64.isFinite = true ↔ x.digits * 10 ^ x.exponent.toNat < Binary64.overflow := by
  have hzero : (Binary64.ofMagnitude x.negative 0).isFinite = true := by
    rw [Binary64.isFinite, Binary64.magnitude_ofMagnitude _ _ (by decide)]
    decide
  have hinfinite : (Binary64.infinity x.negative).isFinite = false := by
    rw [Binary64.isFinite, Binary64.infinity, Binary64.magnitude_ofMagnitude _ _ (by decide)]
    decide
  unfold toBinary64
  by_cases hdigits : x.digits = 0
  · rw [if_pos hdigits, hdigits, Nat.zero_mul]
    exact iff_of_true hzero Binary64.overflow_pos
  rw [if_neg hdigits]
  by_cases hlarge : 400 < x.exponent
  · -- Such a power is not computed, as it alone is too large.
    rw [if_pos hlarge]
    refine iff_of_false (by rw [hinfinite]; exact Bool.false_ne_true) (Nat.not_lt.mpr ?_)
    calc Binary64.overflow ≤ 2 ^ (54 + 970) := Binary64.overflow_le_pow
      _ ≤ 2 ^ (3 * 400) := pow_le_pow_right₀ (by decide) (by decide)
      _ = (2 ^ 3) ^ 400 := pow_mul 2 3 400
      _ ≤ 10 ^ 400 := pow_le_pow_left₀ (by decide) (by decide) 400
      _ ≤ 10 ^ x.exponent.toNat := pow_le_pow_right₀ (by decide) (by omega)
      _ ≤ x.digits * 10 ^ x.exponent.toNat :=
        Nat.le_mul_of_pos_left _ (Nat.pos_of_ne_zero hdigits)
  -- Otherwise the decimal is a natural number, which is rounded as one.
  have hright : (-x.exponent).toNat = 0 := by omega
  rw [if_neg hlarge, if_neg (by omega), hright]
  exact Binary64.isFinite_ofRatio_one x.negative _

end Decimal

end Number

end DocQuery
