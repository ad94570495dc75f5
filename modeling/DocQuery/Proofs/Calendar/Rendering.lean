import DocQuery.Calendar.Reader
import Mathlib.Algebra.Group.Nat.Defs
import Mathlib.Data.List.TakeWhile
import Mathlib.Tactic.Common

/-!
# Reading Rendered Instants

An instant that is rendered reads back as itself. The text has parts of fixed
width, so a reader of a part takes the digits of one number and leaves what is
behind them, as long as the number has no more digits than the part is wide. That
the parts are as wide as they have to be is what the calendar is needed for: there
are twelve months, and none of them has more than 31 days.

The fraction is the one part without a fixed width. It is rendered without its
last zeros, and these are put back when the milliseconds are counted.

Reading has three forms to try, but only the first one is needed: a rendered
instant is of the strict form, with a capital T and a capital Z, so the others
are never asked. The stamp that is read has the fields that were rendered, and
its instant is the sum of the day and the time of day, which is what dividing by
the length of a day has split.

## Theorems

* `Number.ofDigits_padded`: The digits of a number in a fixed count.
* `renderFraction_cases`: The two forms of a fraction.
* `exactly_padded`, `fraction_renderFraction`: The readers of parts.
* `Date.Valid.month_le`, `Date.Valid.day_le`: How wide the parts of a date are.
* `rfc3339?_padded`: The fields of a stamp that is written out in UTC.
* `exists_stamp_of_render?`: The fields of a rendered instant.
* `instant?_of_render?`: A rendered instant reads back.
-/

namespace DocQuery

namespace Number

theorem length_padded (count n : Nat) : (padded count n).length = count := by
  induction count generalizing n with
  | zero => rfl
  | succ count ih => rw [padded, List.length_append, ih, List.length_singleton]

theorem all_isDigit_padded (count n : Nat) : (padded count n).all isDigit = true := by
  induction count generalizing n with
  | zero => rfl
  | succ count ih =>
      rw [padded, List.all_append, ih, Bool.true_and, List.all_cons, List.all_nil, Bool.and_true]
      exact isDigit_digit _ (Nat.mod_lt n (by decide))

/-- A number that has no more digits than there is room for is kept. -/
theorem ofDigits_padded (count n : Nat) (h : n < 10 ^ count) : ofDigits (padded count n) = n := by
  induction count generalizing n with
  | zero =>
      have hzero : n = 0 := by simpa using h
      rw [hzero]
      rfl
  | succ count ih =>
      -- The last digit is split off, and what is left has one digit less.
      have hquotient : n / 10 < 10 ^ count := by
        rw [Nat.pow_succ] at h
        omega
      rw [padded, ofDigits_append_digit _ _ (Nat.mod_lt n (by decide)), ih _ hquotient]
      omega

/-- Each zero that is put behind some digits is a factor of ten. -/
theorem ofDigits_append_zeros (s : List Char) (count : Nat) :
    ofDigits (s ++ List.replicate count '0') = ofDigits s * 10 ^ count := by
  induction count with
  | zero => simp
  | succ count ih =>
      have hdigit := ofDigits_append_digit (s ++ List.replicate count '0') 0 (by decide)
      rw [List.replicate_succ', ← List.append_assoc]
      rw [ih] at hdigit
      rw [Nat.pow_succ, ← Nat.mul_assoc]
      exact hdigit

end Number

namespace Calendar

open Number

/-- A padded number is taken off the front, and the rest is left. -/
theorem exactly_padded (count n : Nat) (rest : List Char) (h : n < 10 ^ count) :
    exactly count (padded count n ++ rest) = some (n, rest) := by
  have htake : (padded count n ++ rest).take count = padded count n :=
    List.take_left' (length_padded count n)
  have hdrop : (padded count n ++ rest).drop count = rest :=
    List.drop_left' (length_padded count n)
  rw [exactly, htake, hdrop, if_pos ⟨length_padded count n, all_isDigit_padded count n⟩,
    ofDigits_padded count n h]

theorem expect_cons (c : Char) (rest : List Char) : expect c (c :: rest) = some rest := by
  rw [expect, if_pos rfl]

/-- A point and digits are read up to the first other character. -/
theorem fraction_point (digits rest : List Char) (hne : digits ≠ [])
    (hdigits : digits.all isDigit = true) :
    fraction ('.' :: digits ++ 'Z' :: rest) = some (digits, 'Z' :: rest) := by
  have hall : ∀ c ∈ digits, isDigit c = true := List.all_eq_true.mp hdigits
  -- The letter behind them is no digit, so the run of digits ends there.
  have htake : (digits ++ 'Z' :: rest).takeWhile isDigit = digits := by
    rw [List.takeWhile_append_of_pos hall, List.takeWhile_cons_of_neg (by decide), List.append_nil]
  have hdrop : (digits ++ 'Z' :: rest).dropWhile isDigit = 'Z' :: rest := by
    rw [List.dropWhile_append_of_pos hall, List.dropWhile_cons_of_neg (by decide)]
  have hempty : digits.isEmpty = false := List.isEmpty_eq_false_iff.mpr hne
  simp only [List.cons_append, fraction, htake, hdrop, hempty, Bool.false_eq_true, if_false]

/-- The milliseconds of a fraction of up to three digits: those that are missing
    are zeros. -/
theorem ofDigits_take_padded (count n : Nat) (hcount : count ≤ 3) (h : n < 10 ^ count) :
    ofDigits ((padded count n ++ ['0', '0', '0']).take 3) = n * 10 ^ (3 - count) := by
  have htake : (padded count n ++ ['0', '0', '0']).take 3 =
      padded count n ++ List.replicate (3 - count) '0' := by
    have hlength : (padded count n).length ≤ 3 := (length_padded count n).trans_le hcount
    have hzeros : ['0', '0', '0'] = List.replicate 3 '0' := rfl
    rw [hzeros, List.take_append, List.take_of_length_le hlength, length_padded,
      List.take_replicate, Nat.min_eq_left (Nat.sub_le 3 count)]
  rw [htake, ofDigits_append_zeros, ofDigits_padded count n h]

/-- A fraction is rendered as nothing, or as a point and up to three digits without
    the zeros that make up the milliseconds. -/
theorem renderFraction_cases (millis : Nat) (h : millis < 1000) :
    millis = 0 ∧ renderFraction millis = [] ∨
      ∃ count n, 0 < count ∧ count ≤ 3 ∧ n < 10 ^ count ∧ n * 10 ^ (3 - count) = millis ∧
        renderFraction millis = '.' :: padded count n := by
  unfold renderFraction
  split
  · rename_i hzero
    exact Or.inl ⟨hzero, rfl⟩
  refine Or.inr ?_
  split
  · -- Two zeros at the end, then one, then none.
    exact ⟨1, millis / 100, by decide, by decide, by omega, by omega, rfl⟩
  split
  · exact ⟨2, millis / 10, by decide, by decide, by omega, by omega, rfl⟩
  · exact ⟨3, millis, by decide, by decide, h, by omega, rfl⟩

/-- The fraction of a rendered instant is read with its milliseconds. -/
theorem fraction_renderFraction (millis : Nat) (rest : List Char) (h : millis < 1000) :
    ∃ part, fraction (renderFraction millis ++ 'Z' :: rest) = some (part, 'Z' :: rest) ∧
      ofDigits ((part ++ ['0', '0', '0']).take 3) = millis := by
  rcases renderFraction_cases millis h with ⟨rfl, hrender⟩ | ⟨count, n, hpos, hcount, hn, rfl,
    hrender⟩
  · rw [hrender]
    exact ⟨[], rfl, rfl⟩
  · have hne : padded count n ≠ [] := by
      rw [← List.length_pos_iff, length_padded]
      exact hpos
    rw [hrender]
    exact ⟨_, fraction_point _ rest hne (all_isDigit_padded count n),
      ofDigits_take_padded count n hcount hn⟩

namespace Date

theorem Valid.month_le {d : Date} (h : d.Valid) : d.month ≤ 12 := by
  -- A month that does not exist has length zero, and no day fits into it.
  by_contra hmonth
  have hnone : (0 :: monthLengths d.year)[d.month]? = none :=
    List.getElem?_eq_none (by simp only [monthLengths, List.length_cons, List.length_nil]; omega)
  rcases h with ⟨hfirst, hlast⟩
  rw [monthLength, hnone, Option.getD_none] at hlast
  omega

theorem Valid.day_le {d : Date} (h : d.Valid) : d.day ≤ 31 := by
  have hlengths : ∀ length ∈ 0 :: monthLengths d.year, length ≤ 31 := by
    unfold monthLengths
    split
    · decide
    · decide
  refine h.2.trans ?_
  unfold monthLength
  rcases hget : (0 :: monthLengths d.year)[d.month]? with _ | length
  · exact Nat.zero_le 31
  · exact hlengths length (List.mem_of_getElem? hget)

end Date

/-- The parts of a stamp in UTC, each as wide as it has to be, are read one after
    the other. -/
theorem rfc3339?_padded (t : Stamp) (year : Nat) (part : List Char) (hvalid : t.Valid)
    (hyear : t.date.year = year) (hwidth : year < 10 ^ 4) (hutc : t.offset = 0)
    (hpart : fraction (part ++ ['Z']) = some (t.fraction, ['Z'])) :
    rfc3339? (padded 4 year ++ '-' :: padded 2 t.date.month ++ '-' :: padded 2 t.date.day ++
      'T' :: padded 2 t.hour ++ ':' :: padded 2 t.minute ++ ':' :: padded 2 t.second ++ part ++
      ['Z']) = some t := by
  rcases hvalid with ⟨hdate, hhour, hminute, hsecond⟩
  have hmonth := hdate.month_le
  have hday := hdate.day_le
  have hfields : (⟨⟨year, t.date.month, t.date.day⟩, t.hour, t.minute, t.second, t.fraction, 0⟩ :
      Stamp) = t := by
    rw [← hyear, ← hutc]
  -- Each part is wide enough for its number, so its reader takes it off the front.
  simp only [List.append_assoc, List.cons_append]
  refine Option.bind_eq_some_iff.mpr ⟨_, exactly_padded 4 year _ hwidth, ?_⟩
  refine Option.bind_eq_some_iff.mpr ⟨_, expect_cons '-' _, ?_⟩
  refine Option.bind_eq_some_iff.mpr ⟨_, exactly_padded 2 t.date.month _ (by omega), ?_⟩
  refine Option.bind_eq_some_iff.mpr ⟨_, expect_cons '-' _, ?_⟩
  refine Option.bind_eq_some_iff.mpr ⟨_, exactly_padded 2 t.date.day _ (by omega), ?_⟩
  refine (if_pos rfl).trans ?_
  refine Option.bind_eq_some_iff.mpr ⟨_, exactly_padded 2 t.hour _ (by omega), ?_⟩
  refine Option.bind_eq_some_iff.mpr ⟨_, expect_cons ':' _, ?_⟩
  refine Option.bind_eq_some_iff.mpr ⟨_, exactly_padded 2 t.minute _ (by omega), ?_⟩
  refine Option.bind_eq_some_iff.mpr ⟨_, expect_cons ':' _, ?_⟩
  refine Option.bind_eq_some_iff.mpr ⟨_, exactly_padded 2 t.second _ (by omega), ?_⟩
  refine Option.bind_eq_some_iff.mpr ⟨_, hpart, ?_⟩
  refine Option.bind_eq_some_iff.mpr ⟨(0, []), rfl, ?_⟩
  simp only [hfields]
  exact if_pos ⟨rfl, hdate, hhour, hminute, hsecond⟩

/-- A rendered instant is read as the stamp of its date and its time of day. -/
theorem exists_stamp_of_render? (n : Int) (s : List Char) (h : render? n = some s) :
    ∃ t, rfc3339? s = some t ∧ t.instant = n := by
  have hvalid := Date.valid_ofDayNumber (n / 86400000)
  have hday := Date.dayNumber_ofDayNumber (n / 86400000)
  simp only [render?] at h
  generalize Date.ofDayNumber (n / 86400000) = date at h hvalid hday
  split at h
  · cases h
  rename_i hyear
  cases h
  -- The remainder is not negative before the epoch either, so it is a time of day.
  obtain ⟨time, htime⟩ : ∃ time : Nat, (n % 86400000).toNat = time := ⟨_, rfl⟩
  rw [htime]
  rcases fraction_renderFraction (time % 1000) [] (by omega) with ⟨part, hpart, hmillis⟩
  let t : Stamp := ⟨date, time / 3600000, time / 60000 % 60, time / 1000 % 60, part, 0⟩
  -- The parts of a time of day are remainders, so they are in their ranges.
  have hfields : t.Valid := by
    refine ⟨hvalid, ?_, ?_, ?_⟩
    · show time / 3600000 ≤ 23
      omega
    · show time / 60000 % 60 ≤ 59
      omega
    · show time / 1000 % 60 ≤ 60
      omega
  refine ⟨t, ?_, ?_⟩
  · refine rfc3339?_padded t date.year.toNat _ hfields ?_ ?_ rfl hpart
    · exact (Int.toNat_of_nonneg (Int.not_lt.mp (not_or.mp hyear).1)).symm
    · omega
  · -- The day and the time of day make up the instant again.
    simp only [t, Stamp.instant, Stamp.seconds, Stamp.millis, hmillis, hday]
    omega

/-- A rendered instant reads back. -/
theorem instant?_of_render? (n : Int) (s : List Char) (h : render? n = some s) :
    instant? s = some n := by
  rcases exists_stamp_of_render? n s h with ⟨t, ht, rfl⟩
  rw [instant?, ht]
  rfl

end Calendar

end DocQuery
