import DocQuery.Pattern.Draft.Basic
import DocQuery.Text.Utf8Range
import DocQuery.Unicode.Ranges
import Std.Data.HashMap

/-!
# Automata for Sets

How large the part of an automaton is that reads one character of a set. It
reads the bytes of the character. For a set within ASCII it has one state with
a link for each range. For others it has several, which are shared where the
remaining bytes are the same.

To find a state that can be shared, the states are kept in a table with a fixed
number of places. The place is computed from what the state holds, and a state
takes the place of the one that was there before, which is not shared any more.

## Main definitions

* `Sharing`: The states that have been built for a set.
* `Sharing.tree`: Build the states that read some sequences of bytes.
* `Draft.addSet?`: Count the states for a set, when the automaton reads texts
  from the front or from the back.
-/

namespace DocQuery

namespace Pattern

/-- Add a number to what the place in a table is computed from. -/
def mixed (h : UInt64) (n : Nat) : UInt64 :=
  (h ^^^ n.toUInt64) * 1099511628211

/-- The place for some numbers, in a table with the given number of places. -/
def placeOf (places : Nat) (ns : List Nat) : Nat :=
  (ns.foldl mixed 14695981039346656037).toNat % places

/-- A link for a range of bytes, to the state with a number. -/
structure Edge where
  low : Nat
  high : Nat
  target : Nat
deriving DecidableEq

/-- The states that have been built for a set: the number of the next one, how
    many links they have, and those in the table. -/
structure Sharing where
  next : Nat
  edges : Nat := 0
  table : Std.HashMap Nat (List Edge × Nat) := {}

namespace Sharing

/-- The number of the state with the given links, which is built if it is not in
    the table. -/
def state (s : Sharing) (edges : List Edge) : Nat × Sharing :=
  let place := placeOf 10000 (edges.flatMap fun e => [e.low, e.high, e.target])
  let built := (s.next,
    { next := s.next + 1
      edges := s.edges + edges.length
      table := s.table.insert place (edges, s.next) : Sharing })
  match s.table[place]? with
  | some (known, n) => if known = edges then (n, s) else built
  | none => built

/-- The number of the state that reads one of some sequences of ranges of bytes
    and then leads to `target`. Sequences with the same first range follow each
    other, and none has more ranges than `depth`. -/
def tree : Nat → Nat → List (List (Nat × Nat)) → Sharing → Nat × Sharing
  | 0, target, _, s => (target, s)
  | depth + 1, target, sequences, s =>
    let groups := sequences.splitBy fun a b => a.head? == b.head?
    let (edges, s) := groups.foldl (fun (edges, s) group => match group with
      | [[r]] => (edges ++ [⟨r.1, r.2, target⟩], s)
      | (r :: _) :: _ =>
        let (n, s) := tree depth target (group.map fun a => a.drop 1) s
        (edges ++ [⟨r.1, r.2, n⟩], s)
      | _ => (edges, s)) ([], s)
    s.state edges

/-- The number of the state that reads a range of bytes and then leads to
    `target`, from a set whose states have one link each. -/
def single (s : Sharing) (target : Nat) (r : Nat × Nat) : Nat × Sharing :=
  let edge : Edge := ⟨r.1, r.2, target⟩
  let place := placeOf 1000 [target, r.1, r.2]
  let built := (s.next,
    { s with next := s.next + 1, table := s.table.insert place ([edge], s.next) })
  match s.table[place]? with
  | some (known, n) => if known = [edge] then (n, s) else built
  | none => built

end Sharing

namespace Draft

/-- Count the states that read a set from the front. -/
def addFromFront? (d : Draft) (sequences : List (List (Nat × Nat))) : Option Draft :=
  let (_, s) := Sharing.tree 4 d.states sequences { next := d.states + 1 }
  d.add? (s.next - d.states) (s.edges * edgeSpace)

/-- Count the states that read a set from the back. Sequences are then shared
    by their first bytes. -/
def addFromBack? (d : Draft) (sequences : List (List (Nat × Nat))) : Option Draft :=
  let s := sequences.foldl
    (fun s sequence =>
      (sequence.foldl (fun (target, s) r => Sharing.single s target r) (d.states + 1, s)).2)
    ({ next := d.states + 2 } : Sharing)
  d.add? (s.next - d.states) (sequences.length * linkSpace)

/-- Count the states for a set. -/
def addSet? (backward : Bool) (r : Unicode.Ranges) (d : Draft) : Option Draft :=
  if r.all fun bounds => bounds.2 < 128 then d.add? 2 (r.length * edgeSpace)
  else
    let sequences := r.flatMap fun bounds => Text.Utf8.byteRanges bounds.1 bounds.2
    if backward then d.addFromBack? sequences else d.addFromFront? sequences

end Draft

end Pattern

end DocQuery
