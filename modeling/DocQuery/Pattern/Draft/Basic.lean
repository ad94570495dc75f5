/-!
# Drafts of Automata

How large the automaton for a pattern becomes, part by part. An automaton has
states, each of which takes a fixed space, and the states that lead to several
others take more for each of these. A pattern is refused when its automaton
would take more than ten megabytes, so a draft that has become too large is
given up at once.

## Main definitions

* `Draft`: What has been counted.
* `Draft.add?`: Count more states.
* `Draft.linked`: Count a link from the end of the last part.
* `Draft.repeat?`: Count a part several times.
-/

namespace DocQuery

namespace Pattern

/-- What has been counted of an automaton: its states, the space they take
    besides, and whether the last part ends in a state that branches, in which
    each link takes space. -/
structure Draft where
  states : Nat := 0
  extra : Nat := 0
  branching : Bool := false

namespace Draft

/-- The space of a state. -/
def stateSpace : Nat := 32

/-- The space of a link from a state that branches. -/
def linkSpace : Nat := 4

/-- The space of a link for a range of bytes, from a state that has several. -/
def edgeSpace : Nat := 8

/-- The space that an automaton may take. -/
def limit : Nat := 10485760

/-- Count states, and the space they take besides. -/
def add? (d : Draft) (states extra : Nat) : Option Draft :=
  let more := { states := d.states + states, extra := d.extra + extra : Draft }
  if more.states * stateSpace + more.extra ≤ limit then some more else none

/-- Count a link from the end of the last part. -/
def linked (d : Draft) : Draft :=
  if d.branching then { d with extra := d.extra + linkSpace } else d

/-- Count a part as often as given, until the draft is too large. -/
def repeat? (part : Draft → Option Draft) : Nat → Draft → Option Draft
  | 0, d => some d
  | n + 1, d => match part d with
    | none => none
    | some d => repeat? part n d

/-- Count parts that follow each other. -/
def sequence? : List (Draft → Option Draft) → Draft → Option Draft
  | [], d => some d
  | [part], d => part d
  | part :: parts, d => match part d with
    | none => none
    | some d => sequence? parts d.linked

/-- Count as many copies of a part as given, one after the other. -/
def copies? (part : Draft → Option Draft) : Nat → Draft → Option Draft
  | 0, d => d.add? 1 0
  | n + 1, d => (part d).bind (repeat? (fun d => part d.linked) n)

end Draft

end Pattern

end DocQuery
