import DocQuery.Calendar.Reader
import Mathlib.Data.Option.Basic
import Mathlib.Data.List.TakeWhile
import Mathlib.Tactic.Common

/-!
# Characters of Dates

The characters that a text is made of if it is a date in one of the accepted
forms: digits, blanks, signs, the marks between the parts and the letters for
time and offset. Each reader of a part takes such characters from the front of a
text, and a date is read to the end.

This is not the grammar of dates, and it is far from it: the characters may
stand in any number and order. But it is enough to tell dates from other texts.
A decimal with an exponent has a letter that no date has, and a date has a mark
that no number has, so a value is never read in both ways.

A reader of a part takes a text and returns what is left of it. `Takes` relates
the two and can be composed, so a reader that is made of others is a chain of
their steps, in the order in which they are taken. At the end nothing is left,
and the relation is about the whole text.

## Main definitions

* `isDateCharacter`: May a character stand in a date?
* `Takes`: What is between two texts, of which the second is the rest of the
  first, consists of characters of dates.

## Theorems

* `takes_exactly`, `takes_atMost`, `takes_expect`, `takes_fraction`,
  `takes_offset`: The readers of parts.
* `forall_isDateCharacter_of_instant?`: The characters of a date.
-/

namespace DocQuery

namespace Calendar

open Number Text

/-- May a character stand in a date? -/
def isDateCharacter (c : Char) : Bool :=
  isDigit c || isBlank c || ['+', '-', '−', ':', '.', 'T', 't', 'Z', 'z'].contains c

/-- Between a text and the rest of it are characters of dates. -/
def Takes (s rest : List Char) : Prop :=
  ∃ used, s = used ++ rest ∧ ∀ c ∈ used, isDateCharacter c = true

/-- Digits may stand in dates. -/
theorem isDateCharacter_of_isDigit (c : Char) (h : isDigit c = true) :
    isDateCharacter c = true := by
  rw [isDateCharacter, h, Bool.true_or, Bool.true_or]

/-- Blanks may stand in dates. -/
theorem isDateCharacter_of_isBlank (c : Char) (h : isBlank c = true) :
    isDateCharacter c = true := by
  rw [isDateCharacter, h, Bool.or_true, Bool.true_or]

/-- Nothing taken is nothing wrong. -/
theorem Takes.refl (s : List Char) : Takes s s :=
  ⟨[], rfl, by simp⟩

/-- What is taken in two steps is taken. -/
theorem Takes.trans {s t rest : List Char} (h : Takes s t) (h' : Takes t rest) :
    Takes s rest := by
  rcases h with ⟨used, rfl, hused⟩
  rcases h' with ⟨more, rfl, hmore⟩
  refine ⟨used ++ more, (List.append_assoc used more rest).symm, ?_⟩
  rw [List.forall_mem_append]
  exact ⟨hused, hmore⟩

instance : Trans Takes Takes Takes := ⟨Takes.trans⟩

/-- A character that may stand in a date can be taken first. -/
theorem Takes.cons {c : Char} {s rest : List Char} (hc : isDateCharacter c = true)
    (h : Takes s rest) : Takes (c :: s) rest :=
  Takes.trans ⟨[c], rfl, by simpa using hc⟩ h

/-- A text of which nothing is left consists of characters of dates. -/
theorem Takes.forall_mem {s : List Char} (h : Takes s []) : ∀ c ∈ s, isDateCharacter c = true := by
  rcases h with ⟨used, rfl, hused⟩
  rwa [List.append_nil]

/-- A part of fixed width takes digits. -/
theorem takes_exactly (count n : Nat) (s rest : List Char) (h : exactly count s = some (n, rest)) :
    Takes s rest := by
  simp only [exactly] at h
  split at h
  · -- The reader has checked that all of them are digits.
    rename_i hdigits
    cases h
    refine ⟨s.take count, (List.take_append_drop count s).symm, fun c hc => ?_⟩
    exact isDateCharacter_of_isDigit c (List.all_eq_true.mp hdigits.2 c hc)
  · cases h

/-- The run of digits at the front has digits only, however many are asked for. -/
theorem forall_mem_take_digitRun (limit : Nat) (s : List Char) :
    ∀ c ∈ s.take (digitRun limit s), isDigit c = true := by
  induction s generalizing limit with
  | nil => simp
  | cons c s ih =>
      cases limit with
      | zero => simp [digitRun]
      | succ limit =>
          rw [digitRun]
          split
          · rename_i hc
            rw [List.take_succ_cons, List.forall_mem_cons]
            exact ⟨hc, ih limit⟩
          · simp

/-- A part of limited width takes digits. -/
theorem takes_atMost (limit n : Nat) (s rest : List Char) (h : atMost limit s = some (n, rest)) :
    Takes s rest := by
  have hdigits := forall_mem_take_digitRun limit s
  unfold atMost at h
  split at h
  · cases h
  · cases h
    exact ⟨_, (List.take_append_drop _ s).symm,
      fun c hc => isDateCharacter_of_isDigit c (hdigits c hc)⟩

/-- A mark that is expected is taken, if it is one of dates. -/
theorem takes_expect (c : Char) (s rest : List Char) (hc : isDateCharacter c = true)
    (h : expect c s = some rest) : Takes s rest := by
  cases s with
  | nil => cases h
  | cons d s =>
      rw [expect] at h
      split at h
      · rename_i hd
        cases h
        exact Takes.cons (hd ▸ hc) (Takes.refl _)
      · cases h

/-- A fraction takes a point and digits, or nothing. -/
theorem takes_fraction (s part rest : List Char) (h : fraction s = some (part, rest)) :
    Takes s rest := by
  unfold fraction at h
  split at h
  · -- A point without digits is no fraction.
    rename_i digits
    simp only at h
    split at h
    · cases h
    · cases h
      refine Takes.cons (by decide) ⟨digits.takeWhile isDigit, ?_, fun c hc => ?_⟩
      · exact List.takeWhile_append_dropWhile.symm
      · exact isDateCharacter_of_isDigit c (List.mem_takeWhile_imp hc)
  · cases h
    exact Takes.refl _

/-- An offset takes one letter, or a sign and two numbers. What counts as a
    minus sign differs between the forms, so it is a parameter. -/
theorem takes_offset (isMinus : Char → Bool)
    (hminus : ∀ c, isMinus c = true → isDateCharacter c = true) (s rest : List Char) (shift : Int)
    (h : offset isMinus s = some (shift, rest)) : Takes s rest := by
  cases s with
  | nil => cases h
  | cons c s =>
      rw [offset] at h
      split at h
      · rename_i hc
        cases h
        refine Takes.cons ?_ (Takes.refl _)
        rcases hc with rfl | rfl
        · decide
        · decide
      · simp only [Option.bind_eq_bind, Option.bind_eq_some_iff] at h
        rcases h with ⟨⟨hours, s₁⟩, h₁, s₂, h₂, ⟨minutes, s₃⟩, h₃, h⟩
        have hparts : Takes s s₃ := calc
          Takes s s₁ := takes_exactly 2 hours s s₁ h₁
          Takes _ s₂ := takes_expect ':' s₁ s₂ (by decide) h₂
          Takes _ s₃ := takes_exactly 2 minutes s₂ s₃ h₃
        -- The minutes have to be below sixty, and then the sign decides.
        split at h
        · cases h
        split at h
        · rename_i hc
          cases h
          exact Takes.cons (hc ▸ by decide) hparts
        split at h
        · rename_i hc
          cases h
          exact Takes.cons (hminus c hc) hparts
        · cases h

/-- Blanks in front are taken. -/
theorem takes_trimStart (s : List Char) : Takes s (trimStart s) :=
  ⟨s.takeWhile isBlank, List.takeWhile_append_dropWhile.symm,
    fun c hc => isDateCharacter_of_isBlank c (List.mem_takeWhile_imp hc)⟩

/-- A lenient part may have blanks in front. -/
theorem takes_lenientPart (s rest : List Char) (n : Nat) (h : lenientPart s = some (n, rest)) :
    Takes s rest :=
  (takes_trimStart s).trans (takes_atMost 2 n _ rest h)

/-- A lenient year may have a sign, and then any number of digits. -/
theorem takes_lenientYear (s rest : List Char) (year : Int)
    (h : lenientYear s = some (year, rest)) : Takes s rest := by
  refine (takes_trimStart s).trans ?_
  -- With a sign in front there may be more digits than four.
  unfold lenientYear at h
  split at h
  · rename_i t heq
    rcases Option.map_eq_some_iff.mp h with ⟨⟨n, u⟩, hn, hu⟩
    cases hu
    exact heq ▸ Takes.cons (by decide) (takes_atMost _ n t rest hn)
  · rename_i t heq
    rcases Option.map_eq_some_iff.mp h with ⟨⟨n, u⟩, hn, hu⟩
    cases hu
    exact heq ▸ Takes.cons (by decide) (takes_atMost _ n t rest hn)
  · rcases Option.map_eq_some_iff.mp h with ⟨⟨n, u⟩, hn, hu⟩
    cases hu
    exact takes_atMost 4 n _ rest hn

/-- The three parts of a lenient day. -/
theorem takes_lenientDay (s rest : List Char) (date : Date)
    (h : lenientDay s = some (date, rest)) : Takes s rest := by
  simp only [lenientDay, Option.bind_eq_bind, Option.bind_eq_some_iff] at h
  rcases h with ⟨⟨year, s₁⟩, h₁, s₂, h₂, ⟨month, s₃⟩, h₃, s₄, h₄, ⟨day, s₅⟩, h₅, h⟩
  -- The day has to exist, which does not matter here.
  split at h
  · rcases Prod.mk.inj (Option.some.inj h) with ⟨-, rfl⟩
    calc
      Takes s s₁ := takes_lenientYear s s₁ year h₁
      Takes _ s₂ := takes_expect '-' s₁ s₂ (by decide) h₂
      Takes _ s₃ := takes_lenientPart s₂ s₃ month h₃
      Takes _ s₄ := takes_expect '-' s₃ s₄ (by decide) h₄
      Takes _ s₅ := takes_lenientPart s₄ s₅ day h₅
  · cases h

/-- A stamp takes the whole text, if what separates its date and time and what
    stands for a minus sign are characters of dates. -/
theorem takes_of_stamp? (isSeparator isMinus : Char → Bool)
    (hseparator : ∀ c, isSeparator c = true → isDateCharacter c = true)
    (hminus : ∀ c, isMinus c = true → isDateCharacter c = true) (s : List Char) (t : Stamp)
    (h : stamp? isSeparator isMinus s = some t) : Takes s [] := by
  unfold stamp? at h
  rcases Option.bind_eq_some_iff.mp h with ⟨⟨year, s₁⟩, h₁, h⟩
  rcases Option.bind_eq_some_iff.mp h with ⟨s₂, h₂, h⟩
  rcases Option.bind_eq_some_iff.mp h with ⟨⟨month, s₃⟩, h₃, h⟩
  rcases Option.bind_eq_some_iff.mp h with ⟨s₄, h₄, h⟩
  rcases Option.bind_eq_some_iff.mp h with ⟨⟨day, s₅⟩, h₅, h⟩
  have hdate : Takes s s₅ := calc
    Takes s s₁ := takes_exactly 4 year s s₁ h₁
    Takes _ s₂ := takes_expect '-' s₁ s₂ (by decide) h₂
    Takes _ s₃ := takes_exactly 2 month s₂ s₃ h₃
    Takes _ s₄ := takes_expect '-' s₃ s₄ (by decide) h₄
    Takes _ s₅ := takes_exactly 2 day s₄ s₅ h₅
  refine hdate.trans ?_
  -- Either the text ends with the day, or a separator and the time follow.
  rcases s₅ with _ | ⟨c, s₅⟩
  · exact Takes.refl []
  simp only at h
  split at h
  · rename_i hc
    rcases Option.bind_eq_some_iff.mp h with ⟨⟨hour, s₆⟩, h₆, h⟩
    rcases Option.bind_eq_some_iff.mp h with ⟨s₇, h₇, h⟩
    rcases Option.bind_eq_some_iff.mp h with ⟨⟨minute, s₈⟩, h₈, h⟩
    rcases Option.bind_eq_some_iff.mp h with ⟨s₉, h₉, h⟩
    rcases Option.bind_eq_some_iff.mp h with ⟨⟨second, s₁₀⟩, h₁₀, h⟩
    rcases Option.bind_eq_some_iff.mp h with ⟨⟨part, s₁₁⟩, h₁₁, h⟩
    rcases Option.bind_eq_some_iff.mp h with ⟨⟨shift, s₁₂⟩, h₁₂, h⟩
    simp only at h
    split at h
    · rename_i hend
      have hnil := List.isEmpty_iff.mp hend.1
      subst hnil
      refine Takes.cons (hseparator c hc) ?_
      calc
        Takes s₅ s₆ := takes_exactly 2 hour s₅ s₆ h₆
        Takes _ s₇ := takes_expect ':' s₆ s₇ (by decide) h₇
        Takes _ s₈ := takes_exactly 2 minute s₇ s₈ h₈
        Takes _ s₉ := takes_expect ':' s₈ s₉ (by decide) h₉
        Takes _ s₁₀ := takes_exactly 2 second s₉ s₁₀ h₁₀
        Takes _ s₁₁ := takes_fraction s₁₀ part s₁₁ h₁₁
        Takes _ [] := takes_offset isMinus hminus s₁₁ [] shift h₁₂
    · cases h
  · cases h

/-- A stamp of the strict form takes the whole text. -/
theorem takes_of_rfc3339? (s : List Char) (t : Stamp) (h : rfc3339? s = some t) : Takes s [] := by
  refine takes_of_stamp? _ _ ?_ ?_ s t h
  · -- The separators are letters and the blank.
    intro c hc
    simp only [Bool.or_eq_true, decide_eq_true_eq] at hc
    rcases hc with (rfl | rfl) | rfl
    · decide
    · decide
    · decide
  · intro c hc
    simp only [Bool.or_eq_true, decide_eq_true_eq] at hc
    rcases hc with rfl | rfl
    · decide
    · decide

/-- So does one of the lenient form. -/
theorem takes_of_lenient? (s : List Char) (t : Stamp) (h : lenient? s = some t) : Takes s [] := by
  simp only [lenient?, Option.bind_eq_bind, Option.bind_eq_some_iff] at h
  rcases h with ⟨⟨date, s₁⟩, h₁, s₂, h₂, ⟨hour, s₃⟩, h₃, s₄, h₄, ⟨minute, s₅⟩, h₅, s₆, h₆,
    ⟨second, s₇⟩, h₇, ⟨part, s₈⟩, h₈, h⟩
  split at h
  · rename_i hend
    have hnil := List.isEmpty_iff.mp hend.1
    subst hnil
    calc
      Takes s s₁ := takes_lenientDay s s₁ date h₁
      Takes _ s₂ := takes_expect 'T' s₁ s₂ (by decide) h₂
      Takes _ s₃ := takes_lenientPart s₂ s₃ hour h₃
      Takes _ s₄ := takes_expect ':' s₃ s₄ (by decide) h₄
      Takes _ s₅ := takes_lenientPart s₄ s₅ minute h₅
      Takes _ s₆ := takes_expect ':' s₅ s₆ (by decide) h₆
      Takes _ s₇ := takes_lenientPart s₆ s₇ second h₇
      Takes _ [] := takes_fraction s₇ part [] h₈
  · cases h

/-- And so does a lenient day without a time. -/
theorem takes_of_lenientDate? (s : List Char) (t : Stamp) (h : lenientDate? s = some t) :
    Takes s [] := by
  simp only [lenientDate?, Option.bind_eq_bind, Option.bind_eq_some_iff] at h
  rcases h with ⟨⟨date, s₁⟩, h₁, h⟩
  split at h
  · rename_i hend
    have hnil := List.isEmpty_iff.mp hend.1
    subst hnil
    exact takes_lenientDay s [] date h₁
  · cases h

/-- A date consists of characters of dates. -/
theorem forall_isDateCharacter_of_instant? (s : List Char) (n : Int) (h : instant? s = some n) :
    ∀ c ∈ s, isDateCharacter c = true := by
  rcases Option.map_eq_some_iff.mp h with ⟨t, ht, -⟩
  -- The forms are tried in their order, and one of them has read the text.
  rw [Option.orElse_eq_some, Option.orElse_eq_some] at ht
  rcases ht with hstamp | ⟨-, hstamp | ⟨-, hdate⟩⟩
  · exact (takes_of_rfc3339? s t hstamp).forall_mem
  · exact (takes_of_lenient? s t hstamp).forall_mem
  · exact (takes_of_lenientDate? s t hdate).forall_mem

end Calendar

end DocQuery
