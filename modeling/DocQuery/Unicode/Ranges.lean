import DocQuery.Text.Hex

/-!
# Ranges of Code Points

Character properties as lists of ranges. Where sets are computed, the ranges
stand in order and no two of them touch, so that equal sets are equal lists.

Long tables are written as text, in which a range has its two ends in
hexadecimal with a hyphen between them. A range of one code point is written as
that code point, and a stroke and a two after a range leave every second code
point of it.

## Main definitions

* `inRanges`: Does a code point lie in one of the ranges?
* `inAnyRange`: The same for a table in several ordered parts, of which only
  the parts that can hold the code point are searched.
* `Ranges`: Ranges in order.
* `Ranges.normal`: Any ranges in order.
* `Ranges.union`, `complement`, `without`, `difference`: The operations on sets.
* `Ranges.ofText`: The ranges that a text lists.
-/

namespace DocQuery

namespace Unicode

/-- Does a code point lie in one of the ranges? -/
def inRanges (ranges : List (Nat × Nat)) (n : Nat) : Bool :=
  ranges.any fun r => r.1 ≤ n && n ≤ r.2

/-- Does a code point lie in one of the ranges of one of the lists? -/
def inAnyRange (parts : List (List (Nat × Nat))) (n : Nat) : Bool :=
  parts.any fun ranges => match ranges with
    | [] => false
    | r :: _ => r.1 ≤ n && inRanges ranges n

/-- Ranges of code points in order, of which no two touch. -/
abbrev Ranges := List (Nat × Nat)

namespace Ranges

/-- The largest code point. -/
def last : Nat := 0x10FFFF

/-- Does a code point lie in one of the ranges? Those after it are not
    looked at. -/
def contains : Ranges → Nat → Bool
  | [], _ => false
  | (a, b) :: rest, n => if n < a then false else n ≤ b || contains rest n

/-- Join ranges that touch or overlap, where the first starts at `a` and ends
    at `b` and the others follow in the order of their starts. -/
def joinFrom (a b : Nat) : List (Nat × Nat) → Ranges
  | [] => [(a, b)]
  | (c, d) :: rest => if c ≤ b + 1 then joinFrom a (max b d) rest else (a, b) :: joinFrom c d rest

/-- Join ranges that touch or overlap, in the order of their starts. -/
def join : List (Nat × Nat) → Ranges
  | [] => []
  | (a, b) :: rest => joinFrom a b rest

/-- Put a range before the first that does not start before it. -/
def place (r : Nat × Nat) : List (Nat × Nat) → List (Nat × Nat)
  | [] => [r]
  | s :: rest => if r.1 ≤ s.1 then r :: s :: rest else s :: place r rest

/-- Any ranges in order. -/
def normal (ranges : List (Nat × Nat)) : Ranges :=
  join (ranges.foldr place [])

/-- The ranges of two lists in the order of their starts, where the first list
    is `r` before `rs` and `rest` merges `rs` with what it is given. -/
def mergeFrom (r : Nat × Nat) (rest : List (Nat × Nat) → List (Nat × Nat)) :
    List (Nat × Nat) → List (Nat × Nat)
  | [] => r :: rest []
  | s :: ss => if r.1 ≤ s.1 then r :: rest (s :: ss) else s :: mergeFrom r rest ss

/-- The ranges of two lists in the order of their starts. -/
def merge : List (Nat × Nat) → List (Nat × Nat) → List (Nat × Nat)
  | [], ss => ss
  | r :: rs, ss => mergeFrom r (merge rs) ss

/-- What lies in one of two sets. -/
def union (r s : Ranges) : Ranges :=
  join (merge r s)

/-- What lies outside a set, from `n` on. -/
def complementFrom (n : Nat) : Ranges → Ranges
  | [] => if n ≤ last then [(n, last)] else []
  | (a, b) :: rest =>
    if n < a then (n, a - 1) :: complementFrom (b + 1) rest else complementFrom (b + 1) rest

/-- What lies outside a set. -/
def complement (r : Ranges) : Ranges :=
  complementFrom 0 r

/-- What lies in both of two sets. -/
def intersection (r s : Ranges) : Ranges :=
  complement (union (complement r) (complement s))

/-- What lies in the first of two sets only. -/
def without (r s : Ranges) : Ranges :=
  complement (union (complement r) s)

/-- What lies in one of two sets only. -/
def difference (r s : Ranges) : Ranges :=
  union (without r s) (without s r)

/-- A range of a table that is being read: its first end, unless that is still
    being read, the end that is being read, and whether every second code point
    is meant. -/
structure Entry where
  start : Option Nat := none
  stop : Nat := 0
  halved : Bool := false

/-- The ranges of an entry. -/
def Entry.ranges (e : Entry) : List (Nat × Nat) :=
  let start := e.start.getD e.stop
  if e.halved then
    (List.range ((e.stop - start) / 2 + 1)).map fun i => (start + 2 * i, start + 2 * i)
  else [(start, e.stop)]

/-- Read on in a table. Entries have a space between them. -/
def readFrom (e : Entry) : List Char → List (Nat × Nat)
  | [] => e.ranges
  | ' ' :: s => e.ranges ++ readFrom {} s
  | '-' :: s => readFrom { e with start := some e.stop, stop := 0 } s
  | '/' :: s => readFrom { e with halved := true } s
  | c :: s =>
    if e.halved then readFrom e s
    else readFrom { e with stop := e.stop * 16 + (Text.Hex.value? c).getD 0 } s

/-- The ranges that the lines of a table list. -/
def ofText (lines : List String) : Ranges :=
  join (lines.flatMap fun line => readFrom {} line.toList)

end Ranges

end Unicode

end DocQuery
