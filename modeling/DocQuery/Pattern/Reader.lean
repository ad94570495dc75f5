import DocQuery.Number.Digits
import DocQuery.Pattern.Bracket
import DocQuery.Pattern.Draft.Form

/-!
# Reading Patterns

Reading the text of a regular expression. There are groups, with names or
flags perhaps, alternatives, repetitions, bracketed sets, escapes, and flags
that are set up to the end of the group they stand in. Conditions on what
comes before or after and references to groups are refused, and so are
patterns that are nested too deeply or would take too much space. The latter
is told apart, for it can happen to any text, be it quoted or not.

The reader goes over the text once and keeps the groups that are open. In the
innermost of them it keeps the finished alternatives and the pieces of the
current one, both last first.

## Main definitions

* `Reader`: A pattern that is being read.
* `Reader.step?`: Read one piece.
* `Pattern.Fault`: Why a text is no pattern.
* `Pattern.read`: Read a pattern.
-/

namespace DocQuery

namespace Pattern

open Number

/-- The inside of a group that is being read, and whether the group keeps its
    place in the text. -/
structure Level where
  flags : Flags := {}
  keepsPlace : Bool := false
  branches : List Term := []
  pieces : List Term := []

namespace Level

/-- Add a piece. -/
def push (level : Level) (t : Term) : Level :=
  { level with pieces := t :: level.pieces }

/-- The current alternative. -/
def branch (level : Level) : Term :=
  .sequence level.pieces.reverse

/-- Start another alternative. -/
def split (level : Level) : Level :=
  { level with branches := level.branch :: level.branches, pieces := [] }

/-- What has been read. -/
def term (level : Level) : Term :=
  .choice (level.branch :: level.branches).reverse

/-- Repeat the last piece. Flags that were set cannot be repeated. -/
def repeat? (level : Level) (least : Nat) (most : Option Nat) (greedy : Bool) : Option Level :=
  match level.pieces with
  | [] | .directive :: _ => none
  | t :: pieces => some { level with pieces := .loop t least most greedy :: pieces }

end Level

/-- A pattern that is being read: the innermost group, the groups around it
    and the names of groups so far. -/
structure Reader where
  level : Level := {}
  outer : List Level := []
  names : List (List Char) := []

/-- Flags in parentheses that have been read: the new flags, whether there
    were any letters, and the sign after them. -/
structure Settings where
  flags : Flags
  isEmpty : Bool
  finish : Char

/-- Read flags up to a colon or a closing parenthesis. The letters and signs
    so far are `seen`, last first. -/
def settings? (flags : Flags) (seen : List Char) : List Char → Option (Settings × List Char)
  | [] => none
  | c :: s =>
    if c = ':' || c = ')' then
      if seen.head? = some '-' then none else some (⟨flags, seen.isEmpty, c⟩, s)
    else if seen.contains c then none
    else if c = '-' then settings? flags (c :: seen) s
    else match flags.ofLetter? (!seen.contains '-') c with
      | some flags => settings? flags (c :: seen) s
      | none => none

/-- The characters that can stand in the name of a group, after the first one
    of which is no number. -/
def nameDefinition (first : Bool) : Unicode.Definition :=
  if first then .alphabetic
  else .or .alphabetic (.categories [.decimalNumber, .letterNumber, .otherNumber])

/-- Can this character stand in the name of a group, or start one? -/
def isNameChar (first : Bool) (c : Char) : Bool :=
  c == '_' || !first && ['.', '[', ']'].contains c || (nameDefinition first).holds c

/-- Read the name of a group up to the closing angle bracket. -/
def groupName? (s : List Char) : Option (List Char × List Char) :=
  match s.takeWhile (· != '>'), s.dropWhile (· != '>') with
  | c :: name, _ :: rest =>
    if isNameChar true c && name.all (isNameChar false) then some (c :: name, rest) else none
  | _, _ => none

/-- Two bounds of a repetition, if they are in order. -/
def bounds? (least most : Nat) : Option (Nat × Option Nat) :=
  if least ≤ most then some (least, some most) else none

/-- Read a number with blanks around it. -/
def count? (flags : Flags) (s : List Char) : Option (Nat × List Char) :=
  let (digits, rest) := run flags isDigit (s.length + 1) (Text.trimStart s)
  if digits.isEmpty || UInt32.size ≤ ofDigits digits then none
  else some (ofDigits digits, flags.skip (Text.trimStart rest))

/-- Read the bounds of a repetition from after the opening brace. -/
def counts? (flags : Flags) (s : List Char) : Option ((Nat × Option Nat) × List Char) := do
  let (least, s) ← count? flags (flags.skip s)
  match s with
  | '\x7d' :: rest => some ((least, some least), rest)
  | ',' :: s => match flags.skip s with
    | '\x7d' :: rest => some ((least, none), rest)
    | s => do
      let (most, s) ← count? flags s
      match s with
      | '\x7d' :: rest => (bounds? least most).map fun b => (b, rest)
      | _ => none
  | _ => none

/-- Read the sign that makes a repetition lazy, if it is there. -/
def readLazy (s : List Char) : Bool × List Char :=
  match s with
  | '?' :: rest => (true, rest)
  | s => (false, s)

namespace Reader

/-- Add a piece. -/
def push (r : Reader) (t : Term) : Reader :=
  { r with level := r.level.push t }

/-- Repeat the last piece. -/
def repeat? (r : Reader) (least : Nat) (most : Option Nat) (rest : List Char) :
    Option (Reader × List Char) :=
  let (lazy, rest) := readLazy rest
  (r.level.repeat? least most (lazy == r.level.flags.lazy)).map fun level =>
    ({ r with level }, rest)

/-- Enter a group that has the given flags. -/
def enter (r : Reader) (flags : Flags) (keepsPlace : Bool) : Reader :=
  { r with level := { flags, keepsPlace }, outer := r.level :: r.outer }

/-- Enter a group with a name, which no other group may have. -/
def enterNamed? (r : Reader) (s : List Char) : Option (Reader × List Char) := do
  let (name, rest) ← groupName? s
  if r.names.contains name then none
  else some ({ r.enter r.level.flags true with names := name :: r.names }, rest)

/-- Set flags up to the end of the group. -/
def setFlags (r : Reader) (flags : Flags) : Reader :=
  { r with level := { r.level with flags, pieces := .directive :: r.level.pieces } }

/-- Read what follows an opening parenthesis. -/
def open? (r : Reader) (s : List Char) : Option (Reader × List Char) :=
  match r.level.flags.skip s with
  | '?' :: 'P' :: '<' :: rest => r.enterNamed? rest
  | '?' :: '<' :: rest =>
    -- These signs would ask for what comes before.
    if rest.head? = some '=' || rest.head? = some '!' then none else r.enterNamed? rest
  | '?' :: rest => do
    let (settings, rest) ← settings? r.level.flags [] rest
    if settings.finish = ':' then some (r.enter settings.flags false, rest)
    -- Parentheses without any flag would set nothing, and are taken for a repetition of nothing.
    else if settings.isEmpty then none
    else some (r.setFlags settings.flags, rest)
  | rest => some (r.enter r.level.flags true, rest)

/-- Leave the innermost group. -/
def leave? (r : Reader) : Option Reader :=
  match r.outer with
  | [] => none
  | level :: outer =>
    some { r with level := level.push (.group r.level.keepsPlace r.level.term), outer }

/-- A character as a piece. -/
def literal (r : Reader) (c : Char) : Term :=
  .literal (!r.level.flags.unicode) (r.level.flags.literal c)

/-- Read an escape. -/
def escape? (r : Reader) (s : List Char) : Option (Reader × List Char) :=
  (Pattern.escape? r.level.flags s).map fun (atom, rest) =>
    (r.push (match atom with
      | .char c => r.literal c
      | .set members => .set 0 (!r.level.flags.unicode) members
      | .look l => .look l), rest)

/-- Read one piece, whose first character is given. -/
def step? (r : Reader) (c : Char) (s : List Char) : Option (Reader × List Char) :=
  let flags := r.level.flags
  match c with
  | '(' => r.open? s
  | ')' => r.leave?.map fun r => (r, s)
  | '|' => some ({ r with level := r.level.split }, s)
  | '[' => (bracket? flags s).map fun (t, rest) => (r.push t, rest)
  | '*' => r.repeat? 0 none s
  | '+' => r.repeat? 1 none s
  | '?' => r.repeat? 0 (some 1) s
  | '\x7b' => do
    let ((least, most), rest) ← counts? flags s
    r.repeat? least most (flags.skip rest)
  | '\\' => r.escape? s
  | '.' => flags.dot?.map fun members => (r.push (.set 0 false members), s)
  | '^' => some (r.push (.look flags.caret), s)
  | '$' => some (r.push (.look flags.dollar), s)
  | c => some (r.push (r.literal c), s)

/-- Read pieces up to the end of the text. Every round takes a character. -/
def run? : Nat → Reader → List Char → Option Term
  | 0, _, _ => none
  | fuel + 1, r, s => match r.level.flags.skip s with
    | [] => if r.outer.isEmpty then some r.level.term else none
    | c :: rest => match r.step? c rest with
      | some (r, rest) => run? fuel r rest
      | none => none

end Reader

/-- How deeply a pattern may be nested. -/
def depthLimit : Nat := 250

/-- Why a text is no pattern: it is not written as one, or the automaton for it
    is too large. -/
inductive Fault where
  | form
  | size
deriving DecidableEq

/-- Read a pattern. -/
def read (s : List Char) : Except Fault Pattern :=
  match Reader.run? (s.length + 1) {} s with
  | none => .error .form
  | some t =>
    -- The depth is measured before an automaton is drafted.
    if depthLimit < t.depth then .error .form
    else if t.form.fits then .ok t.pattern
    else .error .size

end Pattern

end DocQuery
