import DocQuery.Pattern.Draft.Basic
import DocQuery.Text.Utf8

/-!
# Automata for Choices of Texts

How large the part of an automaton is that reads one of some texts. Texts that
start alike share the states for what they have in common. As the first of two
texts that match is to win, a text that comes after one that ends shares
nothing beyond that end with those before it.

## Main definitions

* `Words.sections`: Texts between those that have ended.
* `Words.space`: The states for some texts, and the space they take besides.
* `Draft.addWords?`: Count the states for a choice of texts.
-/

namespace DocQuery

namespace Pattern

namespace Words

/-- What remains of the texts that start with a byte. -/
def under (b : UInt8) (words : List (List UInt8)) : List (List UInt8) :=
  words.filterMap fun w => match w with
    | [] => none
    | c :: rest => if c = b then some rest else none

/-- The first bytes of some texts, each once. -/
def heads (words : List (List UInt8)) : List UInt8 :=
  (words.filterMap List.head?).eraseDups

/-- The texts before, between and after those that have ended. -/
def between : List (List UInt8) → List (List (List UInt8))
  | [] => [[]]
  | [] :: rest => [] :: between rest
  | w :: rest => match between rest with
    | [] => [[w]]
    | first :: more => (w :: first) :: more

/-- The texts before, between and after those that have ended. Of those that
    come before all others only the first one counts. -/
def sections (words : List (List UInt8)) : List (List (List UInt8)) :=
  ((words.takeWhile List.isEmpty).take 1).map (fun _ => []) ++
    between (words.dropWhile List.isEmpty)

/-- The states that read some texts, and the space they take besides. No text is
    longer than `depth`. -/
def space : Nat → List (List UInt8) → Nat × Nat
  | 0, _ => (0, 0)
  | depth + 1, words =>
    let parts := sections words
    let read := parts.filter fun part => !part.isEmpty
    let own := read.map fun part =>
      let bytes := heads part
      (bytes.map fun b => space depth (under b part)).foldl (fun p q => (p.1 + q.1, p.2 + q.2))
        (1, if bytes.length = 1 then 0 else bytes.length * Draft.edgeSpace)
    -- A state leads to the sections that are not empty, and to the end after all but the last.
    let links := read.length + (parts.length - 1)
    if read.isEmpty then (0, 0)
    else own.foldl (fun p q => (p.1 + q.1, p.2 + q.2)) (1, links * Draft.linkSpace)

end Words

/-- Count the states for a choice of texts. -/
def Draft.addWords? (d : Draft) (backward : Bool) (texts : List (List Char)) : Option Draft :=
  let words := texts.map fun s =>
    if backward then (Text.Utf8.encode s).reverse else Text.Utf8.encode s
  let (states, extra) := Words.space (words.foldl (fun n w => max n w.length) 0 + 1) words
  d.add? (states + 1) extra

end Pattern

end DocQuery
