import DocQuery.Pattern.Draft.Ranges
import DocQuery.Pattern.Draft.Words
import DocQuery.Pattern.Form

/-!
# Automata for Patterns

How large the automaton for a pattern becomes. There are two automata, one that
reads texts from the front and keeps the places of groups, and one that reads
them from the back. Neither may become too large.

A repetition is written out, so a count in a pattern is a factor of its size.

## Main definitions

* `Draft.addForm?`: Count the states for a form.
* `Form.fits`: Are the automata for a form small enough?
-/

namespace DocQuery

namespace Pattern

namespace Draft

/-- Count a part that may be left out. -/
def optional? (part : Draft → Option Draft) (d : Draft) : Option Draft := do
  let d ← part (← d.add? 1 (2 * linkSpace))
  d.linked.add? 1 0

/-- Count a part that may be repeated or left out, and that matches the empty
    text or not. -/
def star? (part : Draft → Option Draft) (matchesEmpty : Bool) (d : Draft) : Option Draft := do
  if matchesEmpty then (← part d).linked.add? 3 (4 * linkSpace)
  else
    let d ← part (← d.add? 1 linkSpace)
    some { d.linked with branching := true }

/-- Count a part that occurs as often as given or more often. -/
def plus? (part : Draft → Option Draft) (least : Nat) (d : Draft) : Option Draft := do
  let d ← (← copies? part least d).linked.add? 1 linkSpace
  some { d with branching := true }

/-- Count a part that occurs as often as given, and so many times more at
    most. -/
def atMost? (part : Draft → Option Draft) (least more : Nat) (d : Draft) : Option Draft := do
  let d ← copies? part least d
  if more = 0 then some d
  else
    let next ← d.add? 1 0
    let each (d : Draft) : Option Draft := (d.linked.add? 1 (2 * linkSpace)).bind part
    let d ← repeat? each more { next with branching := d.branching }
    some { d.linked with branching := false }

/-- Count a repetition. -/
def loop? (part : Draft → Option Draft) (matchesEmpty : Bool) (least : Nat) (most : Option Nat)
    (d : Draft) : Option Draft :=
  match least, most with
  | 0, some 1 => optional? part d
  | 0, none => star? part matchesEmpty d
  | least, none => plus? part least d
  | least, some most => atMost? part least (most - least) d

/-- Count the parts of a choice. The states around them come after the first
    two. -/
def choice? (parts : List (Draft → Option Draft)) (d : Draft) : Option Draft := do
  let each (part : Draft → Option Draft) (d : Draft) : Option Draft := (part d).map linked
  let d ← (parts.take 2).foldlM (fun d part => each part d) d
  let d ← d.add? 2 (parts.length * linkSpace)
  let d ← (parts.drop 2).foldlM (fun d part => each part d) d
  some { d with branching := false }

end Draft

namespace Form

/-- The text of a form that is one. -/
def text? : Form → Option (List Char)
  | text s => some s
  | _ => none

end Form

namespace Draft

mutual

/-- Count the states for a form. -/
def addForm? (backward : Bool) : Form → Draft → Option Draft
  | .empty, d => d.add? 1 0
  | .text s, d => d.add? (Text.Utf8.encode s).length 0
  | .set _ bounds, d => d.addSet? backward bounds
  | .look _, d => d.add? 1 0
  | .group f, d =>
    if backward then addForm? backward f d
    else do (← addForm? backward f (← d.add? 1 0)).linked.add? 1 0
  | .loop f least most _, d =>
    d.loop? (addForm? backward f) (f.traits.least.getD 0 == 0) least most
  | .row fs, d =>
    let parts := addForms backward fs
    sequence? (if backward then parts.reverse else parts) d
  | .choice fs, d => match fs.mapM Form.text? with
    | some texts => d.addWords? backward texts
    | none => d.choice? (addForms backward fs)

/-- Count the states for each of some forms. -/
def addForms (backward : Bool) : List Form → List (Draft → Option Draft)
  | [] => []
  | f :: fs => addForm? backward f :: addForms backward fs

end

end Draft

namespace Form

/-- Is the automaton for a form small enough? Unless a match has to be where it
    begins to read, it starts with a loop over any bytes. -/
def fitsOn (backward : Bool) (f : Form) : Bool :=
  Option.isSome do
    let anchored := if backward then f.traits.atEnd else f.traits.atStart
    let d ← if anchored then ({} : Draft).add? 1 0
      else ({} : Draft).add? 3 (Draft.edgeSpace + 2 * Draft.linkSpace)
    let d ← Draft.addForm? backward (if backward then f else group f) d
    d.linked.add? 1 0

/-- Are the automata for a form small enough? -/
def fits (f : Form) : Bool :=
  f.fitsOn false && f.fitsOn true

end Form

end Pattern

end DocQuery
