import DocQuery.Pattern.Basic

/-!
# Normal Forms of Patterns

Patterns as they are measured. What says the same in different ways is brought
into one form: characters in a row are one text, a set of one character is that
character, a row has no rows or empty parts in it and a choice no choices,
choices between characters are sets, and what all parts of a choice start with
is taken out of it.

## Main definitions

* `Form`: A pattern in normal form.
* `Form.traits`: What a form says about the texts it matches.
* `Form.ofSet`, `repeated`, `row`, `choice`: Build forms.
-/

namespace DocQuery

namespace Pattern

/-- A pattern in normal form. -/
inductive Form where
  | empty
  | text (s : List Char)
  /-- A set, which was written with the classes of ASCII or not. -/
  | set (ascii : Bool) (bounds : Unicode.Ranges)
  | look (l : Look)
  /-- A group whose place in the text is kept. -/
  | group (f : Form)
  | loop (f : Form) (least : Nat) (most : Option Nat) (greedy : Bool)
  | row (fs : List Form)
  | choice (fs : List Form)

/-- What a form says about the texts it matches: the length of the shortest one
    if there are any, whether only the empty text matches, and whether a match
    has to be at the start or at the end of the text. -/
structure Traits where
  least : Option Nat := some 0
  isEmpty : Bool := true
  atStart : Bool := false
  atEnd : Bool := false

namespace Traits

/-- The traits of two forms in a row. -/
def append (t u : Traits) : Traits where
  least := do return (← t.least) + (← u.least)
  isEmpty := t.isEmpty && u.isEmpty
  -- Only what comes before any characters can ask for the start.
  atStart := t.atStart || t.isEmpty && u.atStart
  atEnd := u.atEnd || u.isEmpty && t.atEnd

/-- The traits of a choice of two forms. -/
def either (t u : Traits) : Traits where
  least := do return min (← t.least) (← u.least)
  isEmpty := t.isEmpty && u.isEmpty
  atStart := t.atStart && u.atStart
  atEnd := t.atEnd && u.atEnd

end Traits

namespace Form

mutual

/-- What a form says about the texts it matches. -/
def traits : Form → Traits
  | empty => {}
  | text s => { least := some s.length, isEmpty := false }
  | set _ bounds => { least := if bounds.isEmpty then none else some 1, isEmpty := false }
  | look l => { atStart := l == .textStart, atEnd := l == .textEnd }
  | group f => f.traits
  | loop f least most _ =>
    let t := f.traits
    { least := t.least.map (· * least)
      isEmpty := t.isEmpty && most.isSome
      atStart := least != 0 && t.atStart
      atEnd := least != 0 && t.atEnd }
  | row fs => rowTraits fs
  | choice fs => choiceTraits fs

/-- The traits of forms in a row. -/
def rowTraits : List Form → Traits
  | [] => {}
  | f :: fs => f.traits.append (rowTraits fs)

/-- The traits of a choice. -/
def choiceTraits : List Form → Traits
  | [] => { least := none, isEmpty := false }
  | [f] => f.traits
  | f :: fs => f.traits.either (choiceTraits fs)

end

mutual

/-- Are two forms the same? A group is the same as no other one. -/
def same : Form → Form → Bool
  | empty, empty => true
  | text s, text t => s == t
  | set a r, set b s => a == b && r == s
  | look l, look k => l == k
  | loop f least most greedy, loop g least' most' greedy' =>
    least == least' && most == most' && greedy == greedy' && f.same g
  | row fs, row gs => allSame fs gs
  | choice fs, choice gs => allSame fs gs
  | _, _ => false

/-- Are the forms of two lists the same? -/
def allSame : List Form → List Form → Bool
  | [], [] => true
  | f :: fs, g :: gs => f.same g && allSame fs gs
  | _, _ => false

end

/-- The form of a set. Where there is nothing to match it makes no difference
    how the set was written. -/
def ofSet (ascii : Bool) (bounds : Unicode.Ranges) : Form :=
  match bounds with
  | [] => set true []
  | [(a, b)] => if a = b then text [Char.ofNat a] else set ascii bounds
  | _ => set ascii bounds

/-- The form of a repetition. It is no use to repeat the empty text. -/
def repeated (f : Form) (least : Nat) (most : Option Nat) (greedy : Bool) : Form :=
  let (least, most) :=
    if f.traits.isEmpty then (min least 1, some (min (most.getD 1) 1)) else (least, most)
  match least, most with
  | 0, some 0 => empty
  | 1, some 1 => f
  | _, _ => loop f least most greedy

/-- Put a form in front of others. A text is put together with the text that
    follows it. -/
def attach : Form → List Form → List Form
  | text s, text t :: gs => text (s ++ t) :: gs
  | f, gs => f :: gs

/-- The parts that a form has in a row. -/
def parts : Form → List Form
  | empty => []
  | row fs => fs
  | f => [f]

/-- The form that has some parts in a row. -/
def ofParts : List Form → Form
  | [] => empty
  | [f] => f
  | fs => row fs

/-- The form of forms in a row. -/
def inRow (fs : List Form) : Form :=
  ofParts ((fs.flatMap parts).foldr attach [])

/-- The form of two forms in a row. The texts in the second one have been put
    together, so only what stands before it has to be looked at. -/
def append (f g : Form) : Form :=
  ofParts (f.parts.foldr attach g.parts)

/-- The forms that a form is a choice of. -/
def options : Form → List Form
  | choice fs => fs
  | f => [f]

/-- The set of a form that matches one character. -/
def bounds? : Form → Option Unicode.Ranges
  | text [c] => some [(c.toNat, c.toNat)]
  | set _ r => some r
  | _ => none

/-- The parts of a form that has several in a row. -/
def rowParts? : Form → Option (List Form)
  | row fs => some fs
  | _ => none

/-- The number of parts that two rows have in common at the front. -/
def commonLength : List Form → List Form → Nat
  | f :: fs, g :: gs => if f.same g then commonLength fs gs + 1 else 0
  | _, _ => 0

/-- The form of a choice, from which common parts are taken out so many times
    at most. -/
def choiceIn (times : Nat) : List Form → Form
  | [f] => f
  | fs =>
    let fs := fs.flatMap options
    match fs.mapM bounds? with
    | some sets => ofSet false (sets.foldl Unicode.Ranges.union [])
    | none => match times, fs.mapM rowParts? with
      | times + 1, some (first :: rows) =>
        let common := rows.foldl (fun n r => min n (commonLength first r)) first.length
        if common = 0 then choice fs
        else inRow (first.take common ++
          [choiceIn times ((first :: rows).map fun r => inRow (r.drop common))])
      | _, _ => choice fs

end Form

end Pattern

end DocQuery
