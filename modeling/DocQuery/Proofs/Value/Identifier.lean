import DocQuery.Value.Basic

/-!
# Texts of Identifiers

A text is an identifier exactly if it has 24 hexadecimal digits, and every
identifier is read back from its own digits.

Reading checks the length before the digits, so the two directions are proved
apart: what is read has passed both checks, and what passes both checks is read.
The value of the digits is of no interest here, only that there is one.

That identifiers are read back is a fact about padded numerals. An identifier
has 96 bits, which is what 24 hexadecimal digits hold, so nothing is cut off on
the way.

## Theorems

* `ObjectId.exists_read?_eq_some`: All texts of 24 digits are identifiers.
* `ObjectId.length_and_isDigit_of_read?_eq_some`, `read?_eq_none_iff`: No other
  texts are.
* `ObjectId.read?_hex`: The digits of an identifier are read back.
-/

namespace DocQuery

namespace Text.Hex

theorem exists_readFrom?_eq_some (n : Nat) (s : List Char) (h : s.all isDigit = true) :
    ∃ m, readFrom? n s = some m := by
  induction s generalizing n with
  | nil => exact ⟨n, rfl⟩
  | cons c s ih =>
      rw [List.all_cons, Bool.and_eq_true] at h
      rcases Option.isSome_iff_exists.mp h.1 with ⟨v, hv⟩
      rw [readFrom?, hv]
      exact ih _ h.2

theorem isDigit_of_readFrom?_eq_some (n m : Nat) (s : List Char) (h : readFrom? n s = some m) :
    s.all isDigit = true := by
  induction s generalizing n with
  | nil => rfl
  | cons c s ih =>
      rw [readFrom?] at h
      rcases hc : value? c with _ | v
      · rw [hc] at h
        cases h
      · rw [hc] at h
        rw [List.all_cons, Bool.and_eq_true]
        exact ⟨Option.isSome_iff_exists.mpr ⟨v, hc⟩, ih _ h⟩

end Text.Hex

namespace ObjectId

/-- All texts of 24 hexadecimal digits are identifiers. -/
theorem exists_read?_eq_some (s : List Char) (hlength : s.length = 24)
    (hdigits : s.all Text.Hex.isDigit = true) : ∃ id, read? s = some id := by
  rcases s with _ | ⟨c, s⟩
  · cases hlength
  · rcases Text.Hex.exists_readFrom?_eq_some 0 (c :: s) hdigits with ⟨n, hn⟩
    refine ⟨⟨BitVec.ofNat 96 n⟩, ?_⟩
    rw [read?, if_pos hlength, Text.Hex.read?, hn, Option.map_some]
    exact List.cons_ne_nil c s

/-- Identifiers are made of hexadecimal digits. -/
theorem length_and_isDigit_of_read?_eq_some (s : List Char) (id : ObjectId)
    (h : read? s = some id) : s.length = 24 ∧ s.all Text.Hex.isDigit = true := by
  unfold read? at h
  split at h
  · rename_i hlength
    refine ⟨hlength, ?_⟩
    -- The length has been checked, and the digits have a value.
    rcases Option.map_eq_some_iff.mp h with ⟨n, hn, -⟩
    rcases s with _ | ⟨c, s⟩
    · cases hlength
    · rw [Text.Hex.read?] at hn
      · exact Text.Hex.isDigit_of_readFrom?_eq_some 0 n _ hn
      · exact List.cons_ne_nil c s
  · cases h

/-- The texts that are no identifiers. -/
theorem read?_eq_none_iff (s : List Char) :
    read? s = none ↔ ¬ (s.length = 24 ∧ s.all Text.Hex.isDigit = true) := by
  rcases hread : read? s with _ | id
  · refine iff_of_true rfl fun h => ?_
    rcases exists_read?_eq_some s h.1 h.2 with ⟨id, hid⟩
    rw [hread] at hid
    cases hid
  · exact iff_of_false nofun (not_not_intro (length_and_isDigit_of_read?_eq_some s id hread))

/-- The digits of an identifier are read back. -/
theorem read?_hex (id : ObjectId) : read? id.hex = some id := by
  have hlength : id.hex.length = 24 := Text.Hex.length_padded 24 _
  have hread : Text.Hex.read? id.hex = some id.code.toNat := by
    -- Only a text that is not empty is read, which the digits show when taken apart.
    rcases hhex : id.hex with _ | ⟨c, s⟩
    · rw [hhex] at hlength
      cases hlength
    · rw [Text.Hex.read?, ← hhex, hex, Text.Hex.readFrom?_padded 0 24 _ id.code.isLt, Nat.zero_mul,
        Nat.zero_add]
      exact List.cons_ne_nil c s
  rw [read?, if_pos hlength, hread, Option.map_some, BitVec.ofNat_toNat, BitVec.setWidth_eq]

end ObjectId

end DocQuery
