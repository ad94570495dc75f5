import DocQuery.Pattern.Flags
import DocQuery.Text.Cut
import DocQuery.Text.Hex
import DocQuery.Unicode.PropertyName

/-!
# Escapes in Patterns

What a backslash and the characters after it stand for in a pattern: a
character, a class of characters, the characters with a property of Unicode or
a condition. A backslash before a letter or a digit without a meaning of its
own is refused, and so are references to groups; before any other ASCII
character except the angle brackets it takes away a special meaning, whether
there is one or not.

## Main definitions

* `Atom`: What stands at one place of a pattern.
* `escape?`: Read what follows a backslash.
* `quote`: A text as the pattern that matches it and nothing else.
-/

namespace DocQuery

namespace Pattern

open Text

/-- What stands at one place of a pattern. -/
inductive Atom where
  | char (c : Char)
  | set (s : CharSet)
  | look (l : Look)

/-- The characters with a special meaning somewhere in a pattern. -/
def specials : List Char :=
  ['\\', '.', '+', '*', '?', '(', ')', '|', '[', ']', '\x7b', '\x7d', '^', '$', '#', '&', '-', '~']

/-- Escape what has a special meaning in a text. -/
def quote (s : List Char) : List Char :=
  s.flatMap fun c => if specials.contains c then ['\\', c] else [c]

/-- Does a backslash before this character make it stand for itself? -/
def escapesToSelf (c : Char) : Bool :=
  c.toNat < 128 && !c.isAlphanum && c != '<' && c != '>'

/-- The character with a code point. -/
def charOf? (n : Nat) : Option Char :=
  if n.isValidChar then some (Char.ofNat n) else none

/-- Read a fixed count of hexadecimal digits. -/
def hexDigits? (flags : Flags) : Nat → Nat → List Char → Option (Nat × List Char)
  | 0, n, s => some (n, s)
  | _ + 1, _, [] => none
  | count + 1, n, c :: s => match Hex.value? c with
    | some v => hexDigits? flags count (n * 16 + v) (flags.skip s)
    | none => none

/-- Read the characters of a kind at the front of a text, and skip what does
    not count around them. -/
def run (flags : Flags) (kind : Char → Bool) : Nat → List Char → List Char × List Char
  | 0, s => ([], s)
  | fuel + 1, s => match flags.skip s with
    | [] => ([], [])
    | c :: rest =>
      if kind c then
        let (more, rest) := run flags kind fuel rest
        (c :: more, rest)
      else ([], c :: rest)

/-- Read hexadecimal digits up to a closing brace. -/
def bracedDigits? (flags : Flags) (s : List Char) : Option (List Char × List Char) :=
  match run flags Hex.isDigit (s.length + 1) s with
  | (digits, '\x7d' :: rest) => some (digits, rest)
  | _ => none

/-- Read a character by its code point, in braces or in a fixed count of
    digits. A byte that is no character by itself is refused unless characters
    are those of Unicode. -/
def codePoint? (flags : Flags) (count : Nat) (s : List Char) : Option (Atom × List Char) :=
  match flags.skip s with
  | '\x7b' :: rest => do
    let (digits, rest) ← bracedDigits? flags rest
    let c ← (Hex.read? digits).bind charOf?
    some (.char c, rest)
  | s => do
    let (n, rest) ← hexDigits? flags count 0 s
    let c ← charOf? n
    if !flags.unicode && count == 2 && 128 ≤ n then none else some (.char c, rest)

/-- The condition that has a name in braces. -/
def namedEdge? (name : String) : Option WordEdge :=
  match name with
  | "start" => some .start
  | "end" => some .finish
  | "start-half" => some .startHalf
  | "end-half" => some .finishHalf
  | _ => none

/-- Can this character stand in the name of a condition? -/
def isEdgeLetter (c : Char) : Bool :=
  c.isAlpha || c == '-'

/-- Read what may follow the escape of a word boundary: the name of another
    condition in braces. Other braces are left alone. -/
def wordEdge? (flags : Flags) (s : List Char) : Option (WordEdge × List Char) :=
  match s with
  | '\x7b' :: rest => match run flags isEdgeLetter (rest.length + 1) rest with
    | (_, []) => none
    | ([], _) => some (.boundary, s)
    | (name, '\x7d' :: rest) => (namedEdge? (String.ofList name)).map fun edge => (edge, rest)
    | _ => none
  | _ => some (.boundary, s)

/-- The character of a control that has a letter. -/
def control? : Char → Option Char
  | 'a' => some '\x07'
  | 'f' => some '\x0c'
  | 'n' => some '\n'
  | 'r' => some '\r'
  | 't' => some '\t'
  | 'v' => some '\x0b'
  | _ => none

/-- The condition that has a letter or sign. -/
def condition? (flags : Flags) : Char → Option Look
  | 'A' => some .textStart
  | 'z' => some .textEnd
  | 'B' => some (.word .inside !flags.unicode)
  | '<' => some (.word .start !flags.unicode)
  | '>' => some (.word .finish !flags.unicode)
  | _ => none

/-- The characters that a name in braces stands for, and whether the others are
    meant. The name may be that of a property, or those of a property and of a
    value with a sign between them. -/
def propertyNamed? (name : List Char) : Option (Bool × Unicode.Ranges) :=
  match differs name with
  | some (property, value) => (Unicode.PropertyName.valueRanges? property value).map (true, ·)
  | none => match Text.cut? (· == ':') name <|> Text.cut? (· == '=') name with
    | some (property, value) => (Unicode.PropertyName.valueRanges? property value).map (false, ·)
    | none => (Unicode.PropertyName.ranges? name).map (false, ·)
where
  /-- The parts before and after the first sign of difference. -/
  differs : List Char → Option (List Char × List Char)
    | [] => none
    | '!' :: '=' :: s => some ([], s)
    | c :: s => (differs s).map fun p => (c :: p.1, p.2)

/-- Read a name in braces. -/
def bracedName? (flags : Flags) (s : List Char) : Option (List Char × List Char) :=
  match run flags (· != '\x7d') (s.length + 1) s with
  | (name, '\x7d' :: rest) => some (name, rest)
  | _ => none

/-- Read the name of a property, which is in braces or a single letter, and
    find the characters that have it or, if `negative`, those that do not. -/
def property? (flags : Flags) (negative : Bool) (s : List Char) : Option (CharSet × List Char) := do
  if !flags.unicode then none
  else
    let (name, rest) ← match flags.skip s with
      | [] | '\\' :: _ => none
      | '\x7b' :: rest => bracedName? flags rest
      | c :: rest => some ([c], rest)
    let (differs, ranges) ← propertyNamed? name
    let members ← flags.signed? (negative != differs) (flags.fold (.ranges ranges))
    some (members, rest)

/-- Read what follows a backslash. -/
def escape? (flags : Flags) : List Char → Option (Atom × List Char)
  | [] => none
  | 'x' :: s => codePoint? flags 2 s
  | 'u' :: s => codePoint? flags 4 s
  | 'U' :: s => codePoint? flags 8 s
  | 'b' :: s =>
    (wordEdge? flags s).map fun (edge, rest) => (.look (.word edge !flags.unicode), rest)
  | 'p' :: s => (property? flags false s).map fun (members, rest) => (.set members, rest)
  | 'P' :: s => (property? flags true s).map fun (members, rest) => (.set members, rest)
  | c :: s =>
    -- What remains are letters, digits, angle brackets and characters outside ASCII.
    if escapesToSelf c then some (.char c, s)
    else match control? c, condition? flags c, flags.shorthand? c with
      | some d, _, _ => some (.char d, s)
      | none, some l, _ => some (.look l, s)
      | none, none, some members => some (.set members, s)
      | none, none, none => none

end Pattern

end DocQuery
