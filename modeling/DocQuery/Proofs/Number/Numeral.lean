import DocQuery.Proofs.Number.Rounding
import DocQuery.Text.Hex
import Mathlib.Data.List.TakeWhile

/-!
# Numerals among Hexadecimal Texts

A text of hexadecimal digits has no sign and no point, so it is a decimal only
if it is made of decimal digits, perhaps with a letter e and the decimal digits
of an exponent behind them. It is read as a finite number unless that number is
too large.

Texts of this kind matter because identifiers are such texts. Of 24 hexadecimal
digits some are numerals, and those are read as numbers before it is asked
whether they are identifiers. The letter e is the only one that both grammars
share, so a numeral has it at one place at most, and decimal digits on both
sides of it.

How large a number may be is a bound on its value, not on its length, as an
exponent makes large numbers out of short texts. The bound is that of rounding
(`Binary64.overflow`), and it is exact.

## Main definitions

* `IsExponent`: A text that writes an exponent.
* `IsNumeral`: Digits, perhaps with an exponent, of a finite number.

## Theorems

* `Decimal.read?_eq_some_iff`: The hexadecimal texts that are decimals.
* `isSome_readFinite?_iff`: The hexadecimal texts that are finite numbers.
-/

namespace DocQuery

namespace Number

/-- A text that writes an exponent: nothing for zero, or a letter e and
    digits. -/
inductive IsExponent : List Char → Nat → Prop where
  | absent : IsExponent [] 0
  | written {mark : Char} {power : List Char} (hmark : mark = 'e' ∨ mark = 'E')
      (hpower : power ≠ []) (hdigits : power.all isDigit = true) :
      IsExponent (mark :: power) (ofDigits power)

/-- A text of digits and perhaps an exponent whose number is rounded to a finite
    one. -/
def IsNumeral (s : List Char) : Prop :=
  ∃ (whole rest : List Char) (power : Nat), s = whole ++ rest ∧ whole ≠ [] ∧
    whole.all isDigit = true ∧ IsExponent rest power ∧
    ofDigits whole * 10 ^ power < Binary64.overflow

/-- A text of digits is a natural number. -/
theorem readNat?_eq_some_iff (s : List Char) (n : Nat) :
    readNat? s = some n ↔ s ≠ [] ∧ s.all isDigit = true ∧ n = ofDigits s := by
  unfold readNat?
  by_cases h : (!s.isEmpty && s.all isDigit) = true
  · rw [if_pos h, Option.some.injEq, eq_comm]
    rw [Bool.and_eq_true, Bool.not_eq_true', List.isEmpty_eq_false_iff] at h
    exact ⟨fun hn => ⟨h.1, h.2, hn⟩, fun hn => hn.2.2⟩
  · rw [if_neg h]
    rw [Bool.and_eq_true, Bool.not_eq_true', List.isEmpty_eq_false_iff] at h
    exact iff_of_false nofun fun hn => h ⟨hn.1, hn.2.1⟩

/-- There is no sign in a hexadecimal text, so its integers are natural. -/
theorem readInt?_of_hex (s : List Char) (h : s.all Text.Hex.isDigit = true) :
    readInt? s = (readNat? s).map Int.ofNat := by
  rcases s with _ | ⟨c, s⟩
  · rfl
  · rw [List.all_cons, Bool.and_eq_true] at h
    unfold readInt?
    split
    · rename_i heq
      rw [(List.cons.inj heq).1] at h
      exact absurd h.1 (by decide)
    · rename_i heq
      rw [(List.cons.inj heq).1] at h
      exact absurd h.1 (by decide)
    · rfl

namespace Decimal

theorem sign_of_hex (s : List Char) (h : s.all Text.Hex.isDigit = true) : sign s = (false, s) := by
  unfold sign
  split
  · exact absurd (List.all_eq_true.mp h '-' (List.mem_cons_self ..)) (by decide)
  · exact absurd (List.all_eq_true.mp h '+' (List.mem_cons_self ..)) (by decide)
  · rfl

theorem fraction_of_hex (s : List Char) (h : s.all Text.Hex.isDigit = true) :
    fraction s = ([], s) := by
  unfold fraction
  split
  · exact absurd (List.all_eq_true.mp h '.' (List.mem_cons_self ..)) (by decide)
  · rfl

/-- The exponents of hexadecimal texts have no sign. -/
theorem exponent?_eq_some_iff (s : List Char) (h : s.all Text.Hex.isDigit = true) (e : Int) :
    exponent? s = some e ↔ ∃ power : Nat, e = power ∧ IsExponent s power := by
  rcases s with _ | ⟨c, t⟩
  · constructor
    · intro he
      exact ⟨0, (Option.some.inj he).symm, .absent⟩
    · rintro ⟨power, rfl, hpower⟩
      cases hpower
      rfl
  · rw [List.all_cons, Bool.and_eq_true] at h
    rw [exponent?, readInt?_of_hex t h.2]
    constructor
    · intro he
      split at he
      · -- A sign is no hexadecimal digit, so the integer after the mark is its digits.
        rename_i hmark
        rcases Option.map_eq_some_iff.mp he with ⟨n, hn, rfl⟩
        rcases (readNat?_eq_some_iff t n).mp hn with ⟨hnil, hdigits, rfl⟩
        exact ⟨_, rfl, .written hmark hnil hdigits⟩
      · cases he
    · rintro ⟨power, rfl, hpower⟩
      cases hpower with
      | written hmark hnil hdigits =>
          rw [if_pos hmark, (readNat?_eq_some_iff t _).mpr ⟨hnil, hdigits, rfl⟩]
          rfl

/-- The digits in front end where the text or the exponent does. -/
theorem span_digits (whole rest : List Char) (power : Nat) (hwhole : whole.all isDigit = true)
    (hrest : IsExponent rest power) :
    (whole ++ rest).takeWhile isDigit = whole ∧ (whole ++ rest).dropWhile isDigit = rest := by
  have hall : ∀ c ∈ whole, isDigit c = true := List.all_eq_true.mp hwhole
  rw [List.takeWhile_append_of_pos hall, List.dropWhile_append_of_pos hall]
  cases hrest with
  | absent => exact ⟨List.append_nil whole, rfl⟩
  | written hmark _ _ =>
      -- The mark is a hexadecimal digit, but not a decimal one.
      rcases hmark with rfl | rfl
      · exact ⟨List.append_nil whole, rfl⟩
      · exact ⟨List.append_nil whole, rfl⟩

/-- A hexadecimal text is a decimal if it is made of digits and perhaps an
    exponent. -/
theorem read?_eq_some_iff (s : List Char) (h : s.all Text.Hex.isDigit = true) (x : Decimal) :
    read? s = some x ↔ ∃ (whole rest : List Char) (power : Nat), s = whole ++ rest ∧ whole ≠ [] ∧
      whole.all isDigit = true ∧ IsExponent rest power ∧ x = ⟨false, ofDigits whole, power⟩ := by
  have hrest : (s.dropWhile isDigit).all Text.Hex.isDigit = true := by
    rw [List.all_eq_true] at h ⊢
    exact fun c hc => h c ((List.dropWhile_suffix _).mem hc)
  -- Without a sign and a point, the digits in front and the exponent are all there is.
  have hread : read? s = if (s.takeWhile isDigit).isEmpty then none
      else (exponent? (s.dropWhile isDigit)).map
        fun e => ⟨false, ofDigits (s.takeWhile isDigit), e⟩ := by
    unfold read? readUnsigned?
    simp only [sign_of_hex s h, fraction_of_hex _ hrest, List.append_nil, List.length_nil,
      Nat.cast_zero, sub_zero]
  rw [hread]
  constructor
  · intro hx
    split at hx
    · cases hx
    · rename_i hempty
      rcases Option.map_eq_some_iff.mp hx with ⟨e, he, rfl⟩
      rcases (exponent?_eq_some_iff _ hrest e).mp he with ⟨power, rfl, hpower⟩
      exact ⟨_, _, power, List.takeWhile_append_dropWhile.symm, mt List.isEmpty_iff.mpr hempty,
        List.all_takeWhile, hpower, rfl⟩
  · rintro ⟨whole, rest, power, rfl, hwhole, hdigits, hpower, rfl⟩
    -- The digits in front are those that were given, and not more.
    rcases span_digits whole rest power hdigits hpower with ⟨htake, hdrop⟩
    rw [hdrop] at hrest
    rw [htake, hdrop, if_neg (mt List.isEmpty_iff.mp hwhole),
      (exponent?_eq_some_iff _ hrest _).mpr ⟨power, rfl, hpower⟩]
    rfl

end Decimal

/-- A hexadecimal text is read as a finite number exactly if it is a numeral. -/
theorem isSome_readFinite?_iff (s : List Char) (h : s.all Text.Hex.isDigit = true) :
    (Binary64.readFinite? s).isSome = true ↔ IsNumeral s := by
  unfold Binary64.readFinite?
  rw [Option.isSome_iff_exists]
  simp only [Option.filter_eq_some_iff, Option.map_eq_some_iff]
  constructor
  · rintro ⟨y, ⟨x, hx, rfl⟩, hfinite⟩
    rcases (Decimal.read?_eq_some_iff s h x).mp hx with ⟨whole, rest, power, hs, hwhole, hdigits,
      hpower, rfl⟩
    exact ⟨whole, rest, power, hs, hwhole, hdigits, hpower,
      (Decimal.isFinite_toBinary64 _ (Int.natCast_nonneg _)).mp hfinite⟩
  · -- A numeral is read, and its number is small enough to stay finite.
    rintro ⟨whole, rest, power, hs, hwhole, hdigits, hpower, hlt⟩
    exact ⟨_, ⟨_, (Decimal.read?_eq_some_iff s h _).mpr
      ⟨whole, rest, power, hs, hwhole, hdigits, hpower, rfl⟩, rfl⟩,
      (Decimal.isFinite_toBinary64 _ (Int.natCast_nonneg _)).mpr hlt⟩

end Number

end DocQuery
