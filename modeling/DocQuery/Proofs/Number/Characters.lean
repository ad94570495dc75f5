import DocQuery.Proofs.Number.Numeral

/-!
# Characters of Numbers

The characters that a text is made of if it is an integer or a decimal. The
digits in front and behind the point are split off, so each part is looked at on
its own: what is split off are digits, and the rest is made of such characters if
it is read to the end.

These characters are not those of dates, which have colons and letters of their
own, and that is what the two are compared by. A text that is read as a number
has no colon, no blank and no letter but the one for an exponent. The readers of
numbers split a text where a run of digits ends, so the proofs put it together
again: what is before is digits, and what is after has been read.

## Main definitions

* `isNumberCharacter`: May a character stand in a number?

## Theorems

* `forall_isNumberCharacter_of_readInt?`: The characters of an integer.
* `Decimal.forall_isNumberCharacter_of_read?`: The characters of a decimal.
-/

namespace DocQuery

namespace Number

/-- May a character stand in a number? -/
def isNumberCharacter (c : Char) : Bool :=
  isDigit c || ['+', '-', '.', 'e', 'E'].contains c

theorem isNumberCharacter_of_isDigit (c : Char) (h : isDigit c = true) :
    isNumberCharacter c = true := by
  rw [isNumberCharacter, h, Bool.true_or]

theorem forall_isNumberCharacter_of_readNat? (s : List Char) (n : Nat)
    (h : readNat? s = some n) : ∀ c ∈ s, isNumberCharacter c = true := by
  have hdigits := ((readNat?_eq_some_iff s n).mp h).2.1
  exact fun c hc => isNumberCharacter_of_isDigit c (List.all_eq_true.mp hdigits c hc)

/-- An integer consists of a sign and digits. -/
theorem forall_isNumberCharacter_of_readInt? (s : List Char) (n : Int)
    (h : readInt? s = some n) : ∀ c ∈ s, isNumberCharacter c = true := by
  unfold readInt? at h
  -- One case for each sign, and one for none.
  split at h
  · rcases Option.map_eq_some_iff.mp h with ⟨m, hm, -⟩
    exact List.forall_mem_cons.mpr ⟨by decide, forall_isNumberCharacter_of_readNat? _ m hm⟩
  · rcases Option.map_eq_some_iff.mp h with ⟨m, hm, -⟩
    exact List.forall_mem_cons.mpr ⟨by decide, forall_isNumberCharacter_of_readNat? _ m hm⟩
  · rcases Option.map_eq_some_iff.mp h with ⟨m, hm, -⟩
    exact forall_isNumberCharacter_of_readNat? _ m hm

theorem forall_isNumberCharacter_takeWhile (s : List Char) :
    ∀ c ∈ s.takeWhile isDigit, isNumberCharacter c = true :=
  fun c hc => isNumberCharacter_of_isDigit c (List.mem_takeWhile_imp hc)

namespace Decimal

/-- An exponent is a mark and an integer. -/
theorem forall_isNumberCharacter_of_exponent? (s : List Char) (e : Int)
    (h : exponent? s = some e) : ∀ c ∈ s, isNumberCharacter c = true := by
  cases s with
  | nil => simp
  | cons c s =>
      rw [exponent?] at h
      split at h
      · -- The mark is an e of either case, and the integer follows it.
        rename_i hmark
        refine List.forall_mem_cons.mpr ⟨?_, forall_isNumberCharacter_of_readInt? s e h⟩
        rcases hmark with rfl | rfl
        · decide
        · decide
      · cases h

/-- A point and the digits after it, if they are there, are split off in front of
    what is left. -/
theorem forall_isNumberCharacter_of_fraction (s : List Char)
    (h : ∀ c ∈ (fraction s).2, isNumberCharacter c = true) :
    ∀ c ∈ s, isNumberCharacter c = true := by
  unfold fraction at h
  split at h
  · rename_i digits
    rw [List.forall_mem_cons, ← List.takeWhile_append_dropWhile (p := isDigit) (l := digits),
      List.forall_mem_append]
    exact ⟨by decide, forall_isNumberCharacter_takeWhile digits, h⟩
  · exact h

/-- A sign is split off in front of what is left. -/
theorem forall_isNumberCharacter_of_sign (s : List Char)
    (h : ∀ c ∈ (sign s).2, isNumberCharacter c = true) : ∀ c ∈ s, isNumberCharacter c = true := by
  unfold sign at h
  split at h
  · exact List.forall_mem_cons.mpr ⟨by decide, h⟩
  · exact List.forall_mem_cons.mpr ⟨by decide, h⟩
  · exact h

/-- A decimal consists of signs, digits, a point and the mark of an exponent. -/
theorem forall_isNumberCharacter_of_read? (s : List Char) (x : Decimal) (h : read? s = some x) :
    ∀ c ∈ s, isNumberCharacter c = true := by
  refine forall_isNumberCharacter_of_sign s ?_
  simp only [read?, readUnsigned?] at h
  generalize (sign s).2 = t at h ⊢
  split at h
  · cases h
  · rcases Option.map_eq_some_iff.mp h with ⟨e, he, -⟩
    -- From the end: the exponent, the fraction in front of it, and the digits in front of
    -- that.
    have hrest := forall_isNumberCharacter_of_fraction _
      (forall_isNumberCharacter_of_exponent? _ e he)
    rw [← List.takeWhile_append_dropWhile (p := isDigit) (l := t), List.forall_mem_append]
    exact ⟨forall_isNumberCharacter_takeWhile t, hrest⟩

end Decimal

end Number

end DocQuery
