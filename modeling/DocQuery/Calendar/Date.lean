/-!
# Calendar Dates

The proleptic Gregorian calendar, with a year zero and negative years before
it, and the day number of a date.

Day numbers are counted from the first of January of the year zero minus one
day, so that the day before a year has the closed form of `daysBeforeYear`.
`epochDay` moves the count to the first of January 1970.

## Main definitions

* `Date`: A year, a month from 1 and a day from 1.
* `Date.Valid`: The month exists, and the day exists in it.
* `Date.dayNumber`, `Date.ofDayNumber`: Days since the epoch and back.

## Theorems

* `yearOfDay_bounds`: The year of a day starts no later than the day, and the
  next year starts after it.
* `valid_ofDayNumber`: Every day number has a valid date.
* `dayNumber_ofDayNumber`: That date has this day number.
-/

namespace DocQuery

namespace Calendar

/-- A calendar date. -/
structure Date where
  year : Int
  month : Nat
  day : Nat
deriving DecidableEq

namespace Date

/-- Has the year a 29th of February? -/
def isLeap (year : Int) : Bool :=
  year % 4 == 0 && (year % 100 != 0 || year % 400 == 0)

/-- The lengths of the twelve months of a year. -/
def monthLengths (year : Int) : List Nat :=
  [31, if isLeap year then 29 else 28, 31, 30, 31, 30, 31, 31, 30, 31, 30, 31]

/-- The length of a month, zero if there is no such month. -/
def monthLength (year : Int) (month : Nat) : Nat :=
  ((0 :: monthLengths year)[month]?).getD 0

/-- The month exists, and the day exists in it. -/
def Valid (d : Date) : Prop :=
  1 ≤ d.day ∧ d.day ≤ monthLength d.year d.month

instance (d : Date) : Decidable d.Valid :=
  inferInstanceAs (Decidable (1 ≤ d.day ∧ d.day ≤ monthLength d.year d.month))

/-- The number of days before a year. -/
def daysBeforeYear (year : Int) : Int :=
  365 * year + (year - 1) / 4 - (year - 1) / 100 + (year - 1) / 400

/-- The length of some months together. -/
def totalLength (lengths : List Nat) : Nat :=
  lengths.foldr (· + ·) 0

/-- The day number of the first of January 1970 in the count that
    `daysBeforeYear` uses. -/
def epochDay : Int := daysBeforeYear 1970

/-- The number of days from the epoch to a date. -/
def dayNumber (d : Date) : Int :=
  daysBeforeYear d.year - epochDay +
    (totalLength ((monthLengths d.year).take (d.month - 1)) : Int) + (d.day : Int) - 1

/-- The year of a day. Four hundred years have 146097 days, so the quotient is
    off by one year at the most. -/
def yearOfDay (n : Int) : Int :=
  let y := n * 400 / 146097
  if n < daysBeforeYear y then y - 1
  else if daysBeforeYear (y + 1) ≤ n then y + 1
  else y

/-- The month and the day of the month, both from 1, of the day `n` after the
    first of the given months. -/
def monthAndDay : List Nat → Nat → Nat × Nat
  | [], n => (1, n + 1)
  | length :: rest, n =>
    if n < length then (1, n + 1)
    else
      let (m, d) := monthAndDay rest (n - length)
      (m + 1, d)

/-- The date a number of days after the epoch. -/
def ofDayNumber (n : Int) : Date :=
  let n := n + epochDay
  let year := yearOfDay n
  let (month, day) := monthAndDay (monthLengths year) (n - daysBeforeYear year).toNat
  ⟨year, month, day⟩

theorem totalLength_cons (length : Nat) (rest : List Nat) :
    totalLength (length :: rest) = length + totalLength rest := rfl

theorem totalLength_monthLengths (year : Int) :
    totalLength (monthLengths year) = (if isLeap year then 366 else 365) := by
  simp only [monthLengths]
  split <;> rfl

theorem daysBeforeYear_succ (year : Int) :
    daysBeforeYear (year + 1) = daysBeforeYear year + (if isLeap year then 366 else 365) := by
  simp only [daysBeforeYear, isLeap, Bool.and_eq_true, Bool.or_eq_true, beq_iff_eq, bne_iff_ne]
  -- Each quotient grows exactly when the year is divisible by its divisor.
  split <;> omega

theorem yearOfDay_bounds (n : Int) :
    daysBeforeYear (yearOfDay n) ≤ n ∧ n < daysBeforeYear (yearOfDay n + 1) := by
  simp only [yearOfDay]
  -- In each branch the quotient `n * 400 / 146097` bounds the year from one side, and the test
  -- that was made bounds it from the other.
  split
  · rename_i h
    simp only [daysBeforeYear] at *
    omega
  · split
    · rename_i h₁ h₂
      simp only [daysBeforeYear] at *
      omega
    · rename_i h₁ h₂
      omega

theorem monthAndDay_spec (lengths : List Nat) (n : Nat) (h : n < totalLength lengths) :
    1 ≤ (monthAndDay lengths n).1 ∧ 1 ≤ (monthAndDay lengths n).2 ∧
      (monthAndDay lengths n).2 ≤ ((0 :: lengths)[(monthAndDay lengths n).1]?).getD 0 ∧
      totalLength (lengths.take ((monthAndDay lengths n).1 - 1)) + (monthAndDay lengths n).2 =
        n + 1 := by
  induction lengths generalizing n with
  | nil => simp [totalLength] at h
  | cons length rest ih =>
      simp only [totalLength_cons] at h
      by_cases hn : n < length
      · simp only [monthAndDay, hn, if_true]
        refine ⟨Nat.le_refl 1, by omega, ?_, ?_⟩
        · simp only [List.getElem?_cons_succ, List.getElem?_cons_zero, Option.getD_some]
          omega
        · simp [totalLength]
      · -- The day lies in a later month, so the month counts from one further on.
        rcases ih (n - length) (by omega) with ⟨h1, h2, h3, h4⟩
        simp only [monthAndDay, hn, if_false]
        rcases hm : monthAndDay rest (n - length) with ⟨m, d⟩
        rw [hm] at h1 h2 h3 h4
        -- Months count from one, so the month found in the rest is not zero.
        rcases m with _ | m
        · omega
        · simp only [Nat.add_sub_cancel] at h3 h4 ⊢
          refine ⟨by omega, h2, by simpa using h3, ?_⟩
          simp only [List.take_succ_cons, totalLength_cons]
          omega

theorem dayOfYear_lt (n : Int) :
    (n - daysBeforeYear (yearOfDay n)).toNat < totalLength (monthLengths (yearOfDay n)) := by
  rcases yearOfDay_bounds n with ⟨h1, h2⟩
  -- The next year starts after the day, and lies a whole year further on.
  rw [daysBeforeYear_succ] at h2
  rw [totalLength_monthLengths]
  split at h2 <;> rename_i hl <;> simp only [hl, if_true, Bool.false_eq_true, if_false] <;> omega

theorem valid_ofDayNumber (n : Int) : (ofDayNumber n).Valid := by
  rcases monthAndDay_spec _ _ (dayOfYear_lt (n + epochDay)) with ⟨-, h2, h3, -⟩
  exact ⟨h2, h3⟩

theorem dayNumber_ofDayNumber (n : Int) : (ofDayNumber n).dayNumber = n := by
  rcases monthAndDay_spec _ _ (dayOfYear_lt (n + epochDay)) with ⟨-, -, -, h4⟩
  have h := (yearOfDay_bounds (n + epochDay)).1
  simp only [ofDayNumber, dayNumber]
  omega

end Date

end Calendar

end DocQuery
