import DocQuery.Json.Basic

/-!
# Reading JSON

Strict JSON: blanks are the space, the tab and the two line ends; strings hold
no bare controls and no unpaired surrogates; numbers have no leading zeros or
plus signs; nothing may follow the value but blanks. Brackets nest to a depth
of 127. A name that an object repeats keeps its first place and gets its last
value.

Whole numbers are exact as far as 64 bits reach. Every other number is read
in floating point: the leading digits that fit an unsigned 64-bit integer are
rounded once, and the power of ten that is left is multiplied or divided in,
which rounds again. A number that leaves the finite range this way is refused.

The readers take what they need from the front of a text and return the rest.
`fuel` bounds the number of values and members still to be read; the length of
the text is always enough.

## Main definitions

* `Json.Numeral`: The parts of a written number.
* `Json.Numeral.value?`: The number it stands for.
* `Json.read?`: A text that is a JSON value from end to end.
-/

namespace DocQuery

namespace Json

open Number

/-- The blanks that JSON allows between its parts. -/
def isSpace (c : Char) : Bool :=
  c = ' ' || c = '\t' || c = '\n' || c = '\r'

/-- The text from its first character that is not a blank. -/
def skip (s : List Char) : List Char :=
  s.dropWhile isSpace

/-- A written number: its sign, the digits on both sides of the point, and the
    exponent if there is one. -/
structure Numeral where
  negative : Bool
  whole : List Char
  fraction : List Char
  exponent : Option (Bool × List Char)

namespace Numeral

/-- The largest unsigned 64-bit integer. -/
def maxWord : Nat := UInt64.size - 1

/-- The significand and the exponent of ten that the digits before the point
    give: once a digit does not fit, it and all after it only count. -/
def takeWhole : Nat → List Char → Nat × Nat
  | n, [] => (n, 0)
  | n, c :: s =>
    let m := n * 10 + (c.toNat - 48)
    if m ≤ maxWord then takeWhole m s else (n, s.length + 1)

/-- The significand with the digits after the point, and how many of them
    there are, up to the first that does not fit. -/
def takeFraction : Nat → List Char → Nat × Nat
  | n, [] => (n, 0)
  | n, c :: s =>
    let m := n * 10 + (c.toNat - 48)
    if m ≤ maxWord then
      let (r, count) := takeFraction m s
      (r, count + 1)
    else (n, 0)

/-- The rounded power of ten with an exponent up to 308. -/
def tenTo (e : Nat) : Binary64 :=
  .ofRatio false (Nat.pow 10 e) 1

/-- Multiply or divide by a power of ten, which beyond 308 is done in steps.
    Two steps bring every significand to zero. -/
def scale? : Nat → Binary64 → Int → Option Binary64
  | 0, x, _ => some x
  | steps + 1, x, e =>
    if e.natAbs ≤ 308 then
      if 0 ≤ e then (some (x.mul (tenTo e.toNat))).filter Binary64.isFinite
      else some (x.div (tenTo (-e).toNat))
    else if x.magnitude = 0 then some x
    else if 0 ≤ e then none
    else scale? steps (x.div (tenTo 308)) (e + 308)

/-- The number in floating point, from a significand and an exponent of ten
    to which the written one is added. An exponent beyond 31 bits is decided
    by its sign alone. -/
def real? (t : Numeral) (significand : Nat) (e : Int) : Option Binary64 := do
  let (down, ds) := t.exponent.getD (false, [])
  let written := ofDigits ds
  -- Zero stays zero whatever the exponent is, and everything else is too large or too small.
  let x ← if 0x7FFFFFFF < written then
      if significand ≠ 0 && !down then none else some .zero
    else scale? 4 (.ofInt significand) (if down then e - written else e + written)
  return if t.negative then x.neg else x

/-- The number that a numeral stands for. Negative zero is not whole, and
    neither is a negative number below the range of 64 bits. -/
def value? (t : Numeral) : Option Json :=
  let (n, dropped) := takeWhole 0 t.whole
  -- A numeral is whole by its form, not by its value.
  if t.fraction.isEmpty ∧ t.exponent.isNone ∧ dropped = 0 then
    if !t.negative then some (.whole n)
    else if 0 < n ∧ n ≤ 0x8000000000000000 then some (.whole (-n))
    else some (.real (.neg (.ofInt n)))
  else
    let (m, count) := takeFraction n t.fraction
    (t.real? m ((dropped : Int) - count)).map .real

end Numeral

/-- Read the digits of the whole part: a single zero, or digits that do not
    start with one. -/
def wholeDigits? (s : List Char) : Option (List Char × List Char) :=
  match s.takeWhile isDigit with
  | [] => none
  | '0' :: _ :: _ => none
  | ds => some (ds, s.dropWhile isDigit)

/-- Read a point and at least one digit, if there is a point. -/
def fractionDigits? : List Char → Option (List Char × List Char)
  | '.' :: s =>
    let ds := s.takeWhile isDigit
    if ds.isEmpty then none else some (ds, s.dropWhile isDigit)
  | s => some ([], s)

/-- Read the sign and at least one digit of an exponent. -/
def signedDigits? (s : List Char) : Option ((Bool × List Char) × List Char) :=
  let (down, s) := match s with
    | '-' :: s => (true, s)
    | '+' :: s => (false, s)
    | s => (false, s)
  let ds := s.takeWhile isDigit
  if ds.isEmpty then none else some ((down, ds), s.dropWhile isDigit)

/-- Read an exponent, if there is one. -/
def exponentDigits? : List Char → Option (Option (Bool × List Char) × List Char)
  | [] => some (none, [])
  | c :: s =>
    if c = 'e' ∨ c = 'E' then (signedDigits? s).map fun (e, rest) => (some e, rest)
    else some (none, c :: s)

/-- Read a number. -/
def number? (s : List Char) : Option (Json × List Char) := do
  let (negative, s) := match s with
    | '-' :: s => (true, s)
    | s => (false, s)
  let (front, s) ← wholeDigits? s
  let (fraction, s) ← fractionDigits? s
  let (exponent, s) ← exponentDigits? s
  let value ← Numeral.value? ⟨negative, front, fraction, exponent⟩
  return (value, s)

/-- Read the four digits of a `\u` escape. -/
def hexEscape? (s : List Char) : Option (Nat × List Char) :=
  if (s.take 4).length = 4 then (Text.Hex.read? (s.take 4)).map fun n => (n, s.drop 4)
  else none

/-- The character that a pair of surrogates stands for. -/
def surrogatePair (high low : Nat) : Char :=
  Char.ofNat (0x10000 + (high - 0xD800) * 0x400 + (low - 0xDC00))

/-- Read what follows a backslash in a string. -/
def escaped? : List Char → Option (Char × List Char)
  | [] => none
  | c :: s => match c with
    | '"' => some ('"', s)
    | '\\' => some ('\\', s)
    | '/' => some ('/', s)
    | 'b' => some ('\x08', s)
    | 'f' => some ('\x0c', s)
    | 'n' => some ('\n', s)
    | 'r' => some ('\r', s)
    | 't' => some ('\t', s)
    | 'u' => match hexEscape? s with
      | none => none
      | some (n, rest) =>
        -- A low surrogate may not come first, and a high one needs a low one behind it.
        if 0xDC00 ≤ n ∧ n ≤ 0xDFFF then none
        else if 0xD800 ≤ n ∧ n ≤ 0xDBFF then
          match rest with
          | '\\' :: 'u' :: more => match hexEscape? more with
            | some (m, rest) =>
              if 0xDC00 ≤ m ∧ m ≤ 0xDFFF then some (surrogatePair n m, rest) else none
            | none => none
          | _ => none
        else some (Char.ofNat n, rest)
    | _ => none

/-- Read a string up to its closing quotation mark. -/
def chars? : Nat → List Char → Option (List Char × List Char)
  | 0, _ => none
  | _ + 1, [] => none
  | fuel + 1, c :: s =>
    if c = '"' then some ([], s)
    else if c = '\\' then
      match escaped? s with
      | some (d, rest) => (chars? fuel rest).map fun (ds, rest) => (d :: ds, rest)
      | none => none
    else if c.toNat < 0x20 then none
    else (chars? fuel s).map fun (ds, rest) => (c :: ds, rest)

/-- Read a string whose opening quotation mark has been read. -/
def string? (s : List Char) : Option (String × List Char) :=
  (chars? (s.length + 1) s).map fun (cs, rest) => (String.ofList cs, rest)

/-- Read one of the three words. -/
def word? : List Char → Option (Json × List Char)
  | 'n' :: 'u' :: 'l' :: 'l' :: s => some (.null, s)
  | 't' :: 'r' :: 'u' :: 'e' :: s => some (.bool true, s)
  | 'f' :: 'a' :: 'l' :: 's' :: 'e' :: s => some (.bool false, s)
  | _ => none

mutual

/-- Read a value. `depth` is the number of brackets that may still be
    opened. -/
def value? : Nat → Nat → List Char → Option (Json × List Char)
  | 0, _, _ => none
  | fuel + 1, depth, s => match skip s with
    | [] => none
    | '"' :: s => (string? s).map fun (t, rest) => (.string t, rest)
    | '[' :: s => match depth with
      | 0 => none
      | depth + 1 => match skip s with
        | ']' :: s => some (.array [], s)
        | s => (items? fuel depth s).map fun (vs, rest) => (.array vs, rest)
    | '{' :: s => match depth with
      | 0 => none
      | depth + 1 => match skip s with
        | '}' :: s => some (.object [], s)
        | s => (members? fuel depth [] s).map fun (fs, rest) => (.object fs, rest)
    | c :: s =>
      if c = '-' ∨ isDigit c then number? (c :: s) else word? (c :: s)

/-- Read the items of an array, at least one, and its end. -/
def items? : Nat → Nat → List Char → Option (List Json × List Char)
  | 0, _, _ => none
  | fuel + 1, depth, s => match value? fuel depth s with
    | none => none
    | some (v, s) => match skip s with
      | ',' :: s => (items? fuel depth s).map fun (vs, rest) => (v :: vs, rest)
      | ']' :: s => some ([v], s)
      | _ => none

/-- Read the members of an object, at least one, and its end, adding them to
    those before. -/
def members? : Nat → Nat → List (String × Json) → List Char →
    Option (List (String × Json) × List Char)
  | 0, _, _, _ => none
  | fuel + 1, depth, fields, s => match skip s with
    | '"' :: s => match string? s with
      | none => none
      | some (name, s) => match skip s with
        | ':' :: s => match value? fuel depth s with
          | none => none
          | some (v, s) =>
            -- A name that is repeated keeps its place and gets the last value.
            let fields := insertField fields name v
            match skip s with
            | ',' :: s => members? fuel depth fields s
            | '}' :: s => some (fields, s)
            | _ => none
        | _ => none
    | _ => none

end

/-- The greatest depth to which brackets nest. -/
def maxDepth : Nat := 127

/-- A text that is a JSON value from end to end. -/
def read? (s : List Char) : Option Json :=
  match value? (s.length + 1) maxDepth s with
  | some (v, rest) => if (skip rest).isEmpty then some v else none
  | none => none

end Json

end DocQuery
