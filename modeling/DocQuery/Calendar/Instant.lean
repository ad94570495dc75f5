import DocQuery.Calendar.Date
import DocQuery.Number.Digits

/-!
# Instants

Points in time as milliseconds since the beginning of 1970 in UTC, the fields
of a time stamp, and the text of an instant after RFC 3339.

A stamp may carry second 60. `Stamp.instant` counts it like any other second,
so that it is the beginning of the next minute. `Stamp.exactInstant?` follows
the standard more closely: second 60 exists only at the end of a month in UTC,
and it stands for the last moment of second 59.

## Main definitions

* `Stamp`: The fields of a time stamp.
* `Stamp.instant`: Its instant, rounded down to the millisecond.
* `Stamp.exactInstant?`: Its instant, rounded toward the epoch.
* `render?`: The text of an instant in the years 0 to 9999.
-/

namespace DocQuery

namespace Calendar

open Number

/-- The fields of a time stamp. The fraction of the second is kept as its
    digits, and the offset is in minutes east of UTC. -/
structure Stamp where
  date : Date
  hour : Nat
  minute : Nat
  second : Nat
  fraction : List Char
  offset : Int
deriving DecidableEq

namespace Stamp

/-- Every field is in its range. Second 60 is in range in every minute. -/
def Valid (t : Stamp) : Prop :=
  t.date.Valid ∧ t.hour ≤ 23 ∧ t.minute ≤ 59 ∧ t.second ≤ 60

instance (t : Stamp) : Decidable t.Valid :=
  inferInstanceAs (Decidable (t.date.Valid ∧ t.hour ≤ 23 ∧ t.minute ≤ 59 ∧ t.second ≤ 60))

/-- The stamp in whole seconds since the epoch. -/
def seconds (t : Stamp) : Int :=
  t.date.dayNumber * 86400 + ((t.hour : Int) * 60 + t.minute - t.offset) * 60 + t.second

/-- The milliseconds of the fraction, further digits dropped. -/
def millis (t : Stamp) : Nat :=
  ofDigits ((t.fraction ++ ['0', '0', '0']).take 3)

/-- The instant of a stamp, rounded down to the millisecond. -/
def instant (t : Stamp) : Int :=
  t.seconds * 1000 + t.millis

/-- Does the fraction go on below the millisecond? Digits after the ninth
    play no part. -/
def goesOn (t : Stamp) : Bool :=
  ((t.fraction.take 9).drop 3).any (· != '0')

/-- The last second of a month in UTC, as seconds since the epoch. -/
def endsMonth (seconds : Int) : Bool :=
  seconds % 86400 == 86399 &&
    (Date.ofDayNumber ((seconds + 1) / 86400)).day == 1

/-- The instant of a stamp, rounded to the millisecond toward the epoch. A
    stamp with second 60 has one only at the end of a month in UTC. -/
def exactInstant? (t : Stamp) : Option Int :=
  if t.second = 60 then
    -- A leap second has no moments of its own: it stands for the end of the second before it.
    let last : Stamp := { t with second := 59, fraction := List.replicate 9 '9' }
    if endsMonth last.seconds then some (towardEpoch last) else none
  else some (towardEpoch t)
where
  /-- Of the two milliseconds around an instant the one nearer to the
      epoch. -/
  towardEpoch (t : Stamp) : Int :=
    if t.instant < 0 && t.goesOn then t.instant + 1 else t.instant

end Stamp

/-- The fraction of a second without trailing zeros, with its point, or
    nothing for a whole second. -/
def renderFraction (millis : Nat) : List Char :=
  if millis = 0 then []
  else if millis % 100 = 0 then '.' :: padded 1 (millis / 100)
  else if millis % 10 = 0 then '.' :: padded 2 (millis / 10)
  else '.' :: padded 3 millis

/-- The text of an instant after RFC 3339 in UTC, with as few digits of the
    second as it needs. Years outside 0 to 9999 have no such text. -/
def render? (instant : Int) : Option (List Char) :=
  -- Division rounds down, so the time of day is not negative before the epoch either.
  let date := Date.ofDayNumber (instant / 86400000)
  let time := (instant % 86400000).toNat
  if date.year < 0 ∨ 9999 < date.year then none
  else
    some (padded 4 date.year.toNat ++ '-' :: padded 2 date.month ++ '-' :: padded 2 date.day ++
      'T' :: padded 2 (time / 3600000) ++ ':' :: padded 2 (time / 60000 % 60) ++
      ':' :: padded 2 (time / 1000 % 60) ++ renderFraction (time % 1000) ++ ['Z'])

end Calendar

end DocQuery
