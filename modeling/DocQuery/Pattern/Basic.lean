import DocQuery.Pattern.CharSet

/-!
# Patterns

Regular expressions over characters, and where they match. Besides the usual
operations there are conditions on the place between two characters: the ends
of the text, of a line and of a word.

Matching follows all possibilities at once. A place in a text is a `Spot`; a
pattern leads from a list of spots, in the order of the text, to all spots at
which a match that starts at one of them can end. As this keeps no more spots
than the text has places, a match costs no more than the product of the two
lengths.

## Main definitions

* `Pattern`: A regular expression.
* `Look`: A condition on a place.
* `Spot`: A place in a text.
* `Pattern.advance`: The ends of the matches that start at the given spots.
* `Pattern.occursIn`: Does a pattern match somewhere in a text?
-/

namespace DocQuery

/-- A condition on the characters at the two sides of a place, as to whether
    they belong to words. -/
inductive WordEdge where
  | boundary
  | inside
  | start
  | finish
  | startHalf
  | finishHalf
deriving DecidableEq

/-- Does the condition hold, given whether the characters before and after
    belong to words? -/
def WordEdge.holds : WordEdge → Bool → Bool → Bool
  | boundary, before, after => before != after
  | inside, before, after => before == after
  | start, before, after => !before && after
  | finish, before, after => before && !after
  | startHalf, before, _ => !before
  | finishHalf, _, after => !after

/-- A condition on a place in a text. -/
inductive Look where
  | textStart
  | textEnd
  | lineStart
  | lineEnd
  /-- The start of a line, where a carriage return may end lines too. -/
  | breakStart
  /-- The end of a line, where a carriage return may end lines too. -/
  | breakEnd
  /-- A condition on words, which consist of ASCII characters only or not. -/
  | word (edge : WordEdge) (ascii : Bool)
deriving DecidableEq

/-- A regular expression. -/
inductive Pattern where
  | empty
  | set (s : CharSet)
  | look (l : Look)
  | seq (p q : Pattern)
  | alt (p q : Pattern)
  /-- At least `least` matches in a row, and at most `most`, if that is
      given. -/
  | loop (p : Pattern) (least : Nat) (most : Option Nat)

/-- A place in a text: its number, the character before it and the text after
    it. -/
structure Spot where
  place : Nat
  before : Option Char
  after : List Char

namespace Spot

/-- The place before a text. -/
def start (s : List Char) : Spot := ⟨0, none, s⟩

/-- The next place, if the character between belongs to a set. -/
def step? (spot : Spot) (s : CharSet) : Option Spot :=
  match spot.after with
  | [] => none
  | c :: rest => if s.contains c then some ⟨spot.place + 1, some c, rest⟩ else none

/-- All places from the given one to the end of the text. -/
def allFrom (place : Nat) (before : Option Char) : List Char → List Spot
  | [] => [⟨place, before, []⟩]
  | c :: rest => ⟨place, before, c :: rest⟩ :: allFrom (place + 1) (some c) rest

/-- All places of a text. -/
def all (s : List Char) : List Spot := allFrom 0 none s

/-- Does a character, if it is there, belong to a word? -/
def inWord (ascii : Bool) : Option Char → Bool
  | none => false
  | some c => if ascii then Unicode.isAsciiWord c.toNat else Unicode.isWord c

/-- Does a condition hold at a place? -/
def satisfies (spot : Spot) : Look → Bool
  | .textStart => spot.before.isNone
  | .textEnd => spot.after.isEmpty
  | .lineStart => spot.before.isNone || spot.before == some '\n'
  | .lineEnd => spot.after.isEmpty || spot.after.head? == some '\n'
  | .breakStart => spot.before.isNone || spot.before == some '\n' ||
      (spot.before == some '\r' && spot.after.head? != some '\n')
  | .breakEnd => spot.after.isEmpty || spot.after.head? == some '\r' ||
      (spot.after.head? == some '\n' && spot.before != some '\r')
  | .word edge ascii => edge.holds (inWord ascii spot.before) (inWord ascii spot.after.head?)

/-- The spots of two ordered lists in order, each once, where the first list
    is `p` before `ps` and `rest` merges `ps` with what it is given. -/
def mergeFrom (p : Spot) (ps : List Spot) (rest : List Spot → List Spot) :
    List Spot → List Spot
  | [] => p :: ps
  | q :: qs =>
    -- Two spots at one place are the same spot.
    if p.place < q.place then p :: rest (q :: qs)
    else if q.place < p.place then q :: mergeFrom p ps rest qs
    else p :: rest qs

/-- The spots of two ordered lists in order, each once. -/
def merge : List Spot → List Spot → List Spot
  | [], qs => qs
  | p :: ps, qs => mergeFrom p ps (merge ps) qs

/-- The spots of an ordered list that are not in another one. -/
def without (ps qs : List Spot) : List Spot :=
  ps.filter fun p => !(qs.any fun q => q.place == p.place)

end Spot

namespace Pattern

/-- Repeat a step exactly as often as given, or until it changes nothing any
    more. -/
def iterate (step : List Spot → List Spot) : Nat → List Spot → List Spot
  | 0, spots => spots
  | n + 1, spots =>
    let next := step spots
    if next.map Spot.place = spots.map Spot.place then next else iterate step n next

/-- Everything that at most `n` steps lead to. The spots reached so far are
    `seen`, and the steps go on from those of them that are new. -/
def closure (step : List Spot → List Spot) : Nat → List Spot → List Spot → List Spot
  | 0, seen, _ => seen
  | _ + 1, seen, [] => seen
  | n + 1, seen, spot :: spots =>
    -- A step from a spot that was seen before leads to nothing new, so only new ones go on.
    let fresh := Spot.without (step (spot :: spots)) seen
    closure step n (Spot.merge seen fresh) fresh

/-- The number of places at and after the first of some spots. -/
def reach : List Spot → Nat
  | [] => 0
  | spot :: _ => spot.after.length + 1

/-- The ends of the matches that start at the given spots. -/
def advance : Pattern → List Spot → List Spot
  | empty, spots => spots
  | set s, spots => spots.filterMap fun spot => spot.step? s
  | look l, spots => spots.filter fun spot => spot.satisfies l
  | seq p q, spots => q.advance (p.advance spots)
  | alt p q, spots => Spot.merge (p.advance spots) (q.advance spots)
  | loop p least most, spots =>
    let base := iterate p.advance least spots
    -- Every round finds a new place or is the last, so the places bound the rounds.
    closure p.advance ((most.map fun m => m - least).getD (reach base)) base base

/-- Does a pattern match somewhere in a text? -/
def occursIn (p : Pattern) (s : List Char) : Bool :=
  !(p.advance (Spot.all s)).isEmpty

end Pattern

end DocQuery
