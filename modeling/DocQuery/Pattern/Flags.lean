import DocQuery.Pattern.Basic

/-!
# Flags of Patterns

The settings under which a pattern is read. They can change within a pattern,
and they decide what a character of the pattern stands for: whether case
matters, where lines end, whether blanks count, and whether the classes of
characters are those of Unicode or of ASCII.

With the classes of ASCII a pattern still runs over characters, so everything
that would have to match a part of a character is refused: all complements.

## Main definitions

* `Flags`: The settings.
* `Flags.ofLetter?`: Switch a setting that has a letter.
* `Flags.skip`: The text of a pattern after what does not count in it.
* `Flags.ahead?`: The character that tells what a hyphen means.
* `Flags.literal`, `dot?`, `caret`, `dollar`: What these stand for.
-/

namespace DocQuery

namespace Pattern

/-- The settings under which a pattern is read. -/
structure Flags where
  /-- Case does not matter. -/
  caseless : Bool := false
  /-- The ends of lines count as ends. -/
  multiLine : Bool := false
  /-- A point stands for the ends of lines too. -/
  dotAll : Bool := false
  /-- A carriage return ends a line, alone or before a line feed. -/
  crlf : Bool := false
  /-- Classes are those of Unicode. -/
  unicode : Bool := true
  /-- Blanks and comments in the pattern do not count. -/
  spaced : Bool := false
  /-- Repetitions match as little as they can, unless a sign says otherwise. -/
  lazy : Bool := false

namespace Flags

/-- Switch the setting of a letter on or off. -/
def ofLetter? (flags : Flags) (on : Bool) : Char → Option Flags
  | 'i' => some { flags with caseless := on }
  | 'm' => some { flags with multiLine := on }
  | 's' => some { flags with dotAll := on }
  | 'R' => some { flags with crlf := on }
  | 'u' => some { flags with unicode := on }
  | 'x' => some { flags with spaced := on }
  | 'U' => some { flags with lazy := on }
  | _ => none

/-- Skip blanks and comments, being inside a comment or not. -/
def skipBlanks : Bool → List Char → List Char
  | _, [] => []
  | true, c :: s => skipBlanks (c != '\n') s
  | false, c :: s =>
    if Text.isBlank c then skipBlanks false s
    else if c = '#' then skipBlanks true s
    else c :: s

/-- The text of a pattern from the first character that counts. -/
def skip (flags : Flags) (s : List Char) : List Char :=
  if flags.spaced then skipBlanks false s else s

/-- The character by which a hyphen in brackets is judged, given the text after
    it. Blanks before it are left out, and so is the sign of a comment with the
    blanks after it, but not the comment. If nothing remains, the first
    character decides. -/
def ahead? (flags : Flags) (s : List Char) : Option Char :=
  if flags.spaced then
    let rest := match Text.trimStart s with
      | '#' :: comment => Text.trimStart comment
      | rest => rest
    rest.head? <|> s.head?
  else s.head?

/-- Close a set under changes of case, if case does not matter. -/
def fold (flags : Flags) (s : CharSet) : CharSet :=
  if flags.caseless then .folded (!flags.unicode) s else s

/-- The complement of a set. -/
def complement? (flags : Flags) (s : CharSet) : Option CharSet :=
  if flags.unicode then some (.negated s) else none

/-- A set or its complement. -/
def signed? (flags : Flags) (negative : Bool) (s : CharSet) : Option CharSet :=
  if negative then flags.complement? s else some s

/-- The set that a character stands for. -/
def literal (flags : Flags) (c : Char) : CharSet :=
  if flags.caseless then
    if flags.unicode then .caseless c
    else .ranges ((CharSet.asciiOrbit c).map fun d => (d.toNat, d.toNat))
  else .one c

/-- The set that a point stands for. -/
def dot? (flags : Flags) : Option CharSet :=
  flags.complement? <|
    if flags.dotAll then .empty
    else if flags.crlf then .ranges [(10, 10), (13, 13)]
    else .one '\n'

/-- The condition that a caret stands for. -/
def caret (flags : Flags) : Look :=
  if flags.multiLine then if flags.crlf then .breakStart else .lineStart else .textStart

/-- The condition that a dollar sign stands for. -/
def dollar (flags : Flags) : Look :=
  if flags.multiLine then if flags.crlf then .breakEnd else .lineEnd else .textEnd

/-- The class of characters that has a letter. -/
def shorthand? (flags : Flags) : Char → Option CharSet
  | 'd' => some (if flags.unicode then .digit else .ranges [(48, 57)])
  | 's' => some (if flags.unicode then .blank else .ranges [(9, 13), (32, 32)])
  | 'w' => some (if flags.unicode then .word else .ranges [(48, 57), (65, 90), (95, 95), (97, 122)])
  | 'D' => if flags.unicode then some (.negated .digit) else none
  | 'S' => if flags.unicode then some (.negated .blank) else none
  | 'W' => if flags.unicode then some (.negated .word) else none
  | _ => none

end Flags

end Pattern

end DocQuery
