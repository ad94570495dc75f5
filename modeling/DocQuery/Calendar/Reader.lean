import DocQuery.Calendar.Instant
import DocQuery.Text.Blank

/-!
# Reading Dates and Times

Three ways to write a point in time:

* RFC 3339, with parts of fixed width, an optional fraction of the second and
  an offset;
* a date and time without offset, read as UTC, with a `T` between them;
* a date alone, read as its midnight in UTC.

The last two are lenient: a part may have fewer digits than its width, blanks
may precede a part, and the year may have a sign and then any number of
digits. Years run from -262143 to 262142.

Each reader takes what it needs from the front of a text and returns the rest;
a text is a date if nothing is left.

## Main definitions

* `rfc3339?`, `lenient?`, `lenientDate?`: The three forms as stamps.
* `instant?`: A text in any of them as an instant.
* `strictInstant?`: A text in the first form only, read to the letter of the
  standard.
-/

namespace DocQuery

namespace Calendar

open Number
open Text

/-- Read a number of exactly `count` digits. -/
def exactly (count : Nat) (s : List Char) : Option (Nat × List Char) :=
  let ds := s.take count
  if ds.length = count ∧ ds.all isDigit then some (ofDigits ds, s.drop count) else none

/-- The length of the run of digits at the front of a text, up to a limit. -/
def digitRun : Nat → List Char → Nat
  | 0, _ => 0
  | _ + 1, [] => 0
  | limit + 1, c :: s => if isDigit c then digitRun limit s + 1 else 0

/-- Read a number of one to `limit` digits. -/
def atMost (limit : Nat) (s : List Char) : Option (Nat × List Char) :=
  match digitRun limit s with
  | 0 => none
  | n => some (ofDigits (s.take n), s.drop n)

/-- Read one given character. -/
def expect (c : Char) : List Char → Option (List Char)
  | [] => none
  | d :: s => if d = c then some s else none

/-- Read an optional fraction of the second: a point and at least one
    digit. -/
def fraction : List Char → Option (List Char × List Char)
  | '.' :: s =>
    let ds := s.takeWhile isDigit
    if ds.isEmpty then none else some (ds, s.dropWhile isDigit)
  | s => some ([], s)

/-- The last year that dates are read in, and the first. -/
def yearRange (year : Int) : Bool :=
  -262143 ≤ year && year ≤ 262142

/-- Read `Z` or a signed offset in hours and minutes. -/
def offset (isMinus : Char → Bool) : List Char → Option (Int × List Char)
  | [] => none
  | c :: s =>
    if c = 'Z' ∨ c = 'z' then some (0, s)
    else do
      let (h, s₁) ← exactly 2 s
      let s₂ ← expect ':' s₁
      let (m, s₃) ← exactly 2 s₂
      if 23 < h ∨ 59 < m then none
      else if c = '+' then some (((h * 60 + m : Nat) : Int), s₃)
      else if isMinus c then some (-((h * 60 + m : Nat) : Int), s₃)
      else none

/-- A stamp after RFC 3339, with the characters accepted between date and time
    and as the minus of an offset. -/
def stamp? (isSeparator isMinus : Char → Bool) (s : List Char) : Option Stamp := do
  let (year, s) ← exactly 4 s
  let s ← expect '-' s
  let (month, s) ← exactly 2 s
  let s ← expect '-' s
  let (day, s) ← exactly 2 s
  match s with
  | [] => none
  | c :: s =>
    if isSeparator c then
      -- The form is checked to the end of the text before any part is checked for its range.
      let (hour, s) ← exactly 2 s
      let s ← expect ':' s
      let (minute, s) ← exactly 2 s
      let s ← expect ':' s
      let (second, s) ← exactly 2 s
      let (part, s) ← fraction s
      let (shift, s) ← offset isMinus s
      let t : Stamp := ⟨⟨year, month, day⟩, hour, minute, second, part, shift⟩
      if s.isEmpty ∧ t.Valid then some t else none
    else none

/-- A stamp after RFC 3339. A blank may stand for the `T`, and the minus of an
    offset may be the mathematical sign. -/
def rfc3339? (s : List Char) : Option Stamp :=
  stamp? (fun c => c = 'T' || c = 't' || c = ' ') (fun c => c = '-' || c = '−') s

/-- Read a year: a sign and any number of digits, or up to four digits. -/
def lenientYear (s : List Char) : Option (Int × List Char) :=
  match trimStart s with
  | '-' :: s => (atMost s.length s).map fun (n, s) => (-(n : Int), s)
  | '+' :: s => (atMost s.length s).map fun (n, s) => ((n : Int), s)
  | s => (atMost 4 s).map fun (n, s) => ((n : Int), s)

/-- Read a part of one or two digits, with blanks before it. -/
def lenientPart (s : List Char) : Option (Nat × List Char) :=
  atMost 2 (trimStart s)

/-- Read a date in its lenient form. -/
def lenientDay (s : List Char) : Option (Date × List Char) := do
  let (year, s) ← lenientYear s
  let s ← expect '-' s
  let (month, s) ← lenientPart s
  let s ← expect '-' s
  let (day, s) ← lenientPart s
  if yearRange year then some (⟨year, month, day⟩, s) else none

/-- A date and time without offset. -/
def lenient? (s : List Char) : Option Stamp := do
  let (date, s) ← lenientDay s
  let s ← expect 'T' s
  let (hour, s) ← lenientPart s
  let s ← expect ':' s
  let (minute, s) ← lenientPart s
  let s ← expect ':' s
  let (second, s) ← lenientPart s
  let (part, s) ← fraction s
  let t : Stamp := ⟨date, hour, minute, second, part, 0⟩
  if s.isEmpty ∧ t.Valid then some t else none

/-- A date alone, as the stamp of its midnight. -/
def lenientDate? (s : List Char) : Option Stamp := do
  let (date, s) ← lenientDay s
  if s.isEmpty ∧ date.Valid then some ⟨date, 0, 0, 0, [], 0⟩ else none

/-- A text in any of the three forms, as an instant. -/
def instant? (s : List Char) : Option Int :=
  (rfc3339? s <|> lenient? s <|> lenientDate? s).map Stamp.instant

/-- A text after RFC 3339, with any ASCII character between date and time, as
    an instant. -/
def strictInstant? (s : List Char) : Option Int :=
  (stamp? (fun c => c.toNat < 128) (fun c => c = '-') s).bind Stamp.exactInstant?

end Calendar

end DocQuery
