import DocQuery.Pattern.Escape
import DocQuery.Pattern.Term

/-!
# Bracketed Sets in Patterns

Reading a set of characters that is listed between brackets. Its items are
characters, ranges, classes and further brackets; sets of items can be joined
by operators, which bind less tightly than standing side by side and group to
the left. Brackets, operators and items side by side are levels of nesting.

Case folding applies to both sides of an operator and to the whole, and before
a complement is taken.

## Main definitions

* `Bracket`: A set that is being read.
* `bracket?`: Read a set from after its opening bracket.
-/

namespace DocQuery

namespace Pattern

/-- Items that stand side by side: what they contain, how many they are and how
    many levels of brackets the deepest of them takes. -/
structure Items where
  members : CharSet := .empty
  count : Nat := 0
  levels : Nat := 0

namespace Items

/-- Add an item. -/
def add (items : Items) (s : CharSet) (levels : Nat) : Items :=
  ⟨.union items.members s, items.count + 1, max items.levels levels⟩

/-- How many levels some items take. Several of them take one more than the
    deepest. -/
def depth (items : Items) : Nat :=
  if items.count ≤ 1 then items.levels else items.levels + 1

end Items

/-- What stands before an operator, and how many levels it takes. -/
structure Operand where
  op : SetOp
  members : CharSet
  levels : Nat

/-- A set that is being read: whether its complement is meant, what stands
    before the last operator, and the items since then. -/
structure Bracket where
  negative : Bool := false
  left : Option Operand := none
  items : Items := {}

namespace Bracket

/-- Add an item. -/
def add (b : Bracket) (s : CharSet) (levels : Nat) : Bracket :=
  { b with items := b.items.add s levels }

/-- What has been read so far. -/
def content (flags : Flags) (b : Bracket) : CharSet :=
  match b.left with
  | none => b.items.members
  | some left => .combine left.op (flags.fold left.members) (flags.fold b.items.members)

/-- How many levels there are in what has been read so far. An operator takes
    one. -/
def levels (b : Bracket) : Nat :=
  match b.left with
  | none => b.items.depth
  | some left => max left.levels b.items.depth + 1

/-- Go on after an operator. -/
def operate (flags : Flags) (b : Bracket) (op : SetOp) : Bracket :=
  { b with left := some ⟨op, b.content flags, b.levels⟩, items := {} }

/-- The finished set. -/
def close? (flags : Flags) (b : Bracket) : Option CharSet :=
  flags.signed? b.negative (flags.fold (b.content flags))

end Bracket

/-- The ranges of the classes that have names. -/
def asciiClass? (name : String) : Option (List (Nat × Nat)) :=
  match name with
  | "alnum" => some [(48, 57), (65, 90), (97, 122)]
  | "alpha" => some [(65, 90), (97, 122)]
  | "ascii" => some [(0, 127)]
  | "blank" => some [(9, 9), (32, 32)]
  | "cntrl" => some [(0, 31), (127, 127)]
  | "digit" => some [(48, 57)]
  | "graph" => some [(33, 126)]
  | "lower" => some [(97, 122)]
  | "print" => some [(32, 126)]
  | "punct" => some [(33, 47), (58, 64), (91, 96), (123, 126)]
  | "space" => some [(9, 13), (32, 32)]
  | "upper" => some [(65, 90)]
  | "word" => some [(48, 57), (65, 90), (95, 95), (97, 122)]
  | "xdigit" => some [(48, 57), (65, 70), (97, 102)]
  | _ => none

/-- Read a class by its name between colons, from after the bracket before
    it. -/
def namedClass? (s : List Char) : Option ((Bool × CharSet) × List Char) :=
  match s with
  | ':' :: s =>
    let negative := s.head? == some '^'
    let s := if negative then s.drop 1 else s
    match s.dropWhile (· != ':') with
    | ':' :: ']' :: rest =>
      (asciiClass? (String.ofList (s.takeWhile (· != ':')))).map fun bounds =>
        ((negative, .ranges bounds), rest)
    | _ => none
  | _ => none

/-- Read the hyphens that stand first in a set, which are ordinary
    characters. -/
def hyphens (flags : Flags) (items : Items) : Nat → List Char → Items × List Char
  | 0, s => (items, s)
  | fuel + 1, s => match flags.skip s with
    | '-' :: rest => hyphens flags (items.add (.one '-') 0) fuel rest
    | other => (items, other)

/-- Read the start of a set from after its bracket: the sign of a complement,
    hyphens, and a closing bracket if it comes first. -/
def openBracket (flags : Flags) (s : List Char) : Bracket × List Char :=
  let s := flags.skip s
  let negative := s.head? == some '^'
  let s := flags.skip (if negative then s.drop 1 else s)
  match hyphens flags {} (s.length + 1) s with
  | (items, ']' :: rest) =>
    if items.count = 0 then ({ negative, items := items.add (.one ']') 0 }, rest)
    else ({ negative, items }, ']' :: rest)
  | (items, rest) => ({ negative, items }, rest)

/-- Read one end of a range, or a whole item. -/
def bracketAtom? (flags : Flags) : List Char → Option (Atom × List Char)
  | [] => none
  | '\\' :: s => escape? flags s
  | c :: s => some (.char c, s)

/-- The set of one character. Outside Unicode it has to be one of ASCII. -/
def member? (flags : Flags) (c : Char) : Option CharSet :=
  if flags.unicode || c.toNat < 128 then some (.one c) else none

/-- The set that an item stands for by itself. -/
def single? (flags : Flags) : Atom → Option CharSet
  | .char c => member? flags c
  | .set s => some s
  | .look _ => none

/-- The set of a range. -/
def range? (flags : Flags) (low high : Atom) : Option CharSet :=
  match low, high with
  | .char a, .char b =>
    if a ≤ b && (flags.unicode || b.toNat < 128) then some (.ranges [(a.toNat, b.toNat)]) else none
  | _, _ => none

/-- Read an item or a range. A hyphen before the closing bracket or before
    another hyphen does not make a range. -/
def item? (flags : Flags) (s : List Char) : Option (CharSet × List Char) := do
  let (low, s) ← bracketAtom? flags s
  match flags.skip s with
  | '-' :: rest =>
    if flags.ahead? rest = some ']' || flags.ahead? rest = some '-' then
      (single? flags low).map fun members => (members, '-' :: rest)
    else
      let (high, rest) ← bracketAtom? flags (flags.skip rest)
      (range? flags low high).map fun members => (members, rest)
  | other => (single? flags low).map fun members => (members, other)

/-- Read on in a set that stands inside others. Every round takes a
    character. -/
def brackets? (flags : Flags) :
    Nat → Bracket → List Bracket → List Char → Option (Term × List Char)
  | 0, _, _, _ => none
  | fuel + 1, b, outer, s => match flags.skip s with
    | [] => none
    -- What looks like a named class but has no such name is a set like any other.
    | '[' :: rest => match namedClass? rest with
      | some ((negative, members), rest) => do
        let members ← flags.signed? negative (flags.fold members)
        brackets? flags fuel (b.add members 0) outer rest
      | none =>
        let (inner, rest) := openBracket flags rest
        brackets? flags fuel inner (b :: outer) rest
    | ']' :: rest => do
      -- The finished set is an item of the one around it, or the result.
      let members ← b.close? flags
      match outer with
      | [] => some (.set (b.levels + 1) (!flags.unicode) members, rest)
      | o :: outer => brackets? flags fuel (o.add members (b.levels + 1)) outer rest
    | '&' :: '&' :: rest => brackets? flags fuel (b.operate flags .intersection) outer rest
    | '-' :: '-' :: rest => brackets? flags fuel (b.operate flags .difference) outer rest
    | '~' :: '~' :: rest => brackets? flags fuel (b.operate flags .symmetricDifference) outer rest
    | s => do
      let (members, rest) ← item? flags s
      brackets? flags fuel (b.add members 0) outer rest

/-- Read a set from after its opening bracket. -/
def bracket? (flags : Flags) (s : List Char) : Option (Term × List Char) :=
  let (b, rest) := openBracket flags s
  brackets? flags (rest.length + 1) b [] rest

end Pattern

end DocQuery
