import DocQuery.Filter.Comparator
import DocQuery.Pattern.Basic
import DocQuery.Request.Coercion
import DocQuery.Text.Blank
import DocQuery.Text.Cut

/-!
# Comparisons in Requests

A parameter can ask for a range by a word for a comparison, a comma and a
bound. The words are first marked with a dollar sign wherever they stand
between two edges of a word, in the bound too; then the text is cut at its
first comma.

The search for words goes from left to right. At each place the words are tried
in the order of `Comparator.all`, the longer one of two first, and it goes on
behind the word that has been found.

## Main definitions

* `Comparator.wordAt?`: The word for a comparison at a place.
* `Comparator.mark`: Mark the words for comparisons in a text.
* `Comparison`: A comparison with a bound.
* `Comparison.read?`: The comparison that a text asks for.
-/

namespace DocQuery

namespace Comparator

/-- Is the place between a character, if there is one, and a text an edge of a
    word? -/
def isEdge (before : Option Char) (s : List Char) : Bool :=
  WordEdge.boundary.holds (Spot.inWord false before) (Spot.inWord false s.head?)

/-- The first comparison whose word is at the front of a text, with an edge of a
    word on both sides. -/
def wordAt? (before : Option Char) (s : List Char) : Option Comparator :=
  all.find? fun c =>
    let word := c.word.toList
    isEdge before s && word.isPrefixOf s && isEdge word.getLast? (s.drop word.length)

/-- Mark the words in a text that follows a character, if there is one. The
    first `skip` characters belong to a word that has been found before. -/
def markFrom : Option Char → Nat → List Char → List Char
  | _, _, [] => []
  | _, skip + 1, c :: s => c :: markFrom (some c) skip s
  | before, 0, c :: s => match wordAt? before (c :: s) with
    | some found => '$' :: c :: markFrom (some c) (found.word.toList.length - 1) s
    | none => c :: markFrom (some c) 0 s

/-- Mark the words for comparisons in a text. -/
def mark (s : List Char) : List Char :=
  markFrom none 0 s

end Comparator

/-- A comparison with a bound. -/
structure Comparison where
  comparator : Comparator
  bound : Value

namespace Comparison

/-- The comparison that a text asks for. -/
def read? (s : List Char) : Option Comparison := do
  -- Marking goes before cutting, so a comparator in the bound is marked as well.
  let (head, operand) ← Text.cut? (· == ',') (Comparator.mark s)
  let comparator ← Comparator.ofKey? (String.ofList (Text.trim head))
  return ⟨comparator, Coercion.operand (Text.trim operand)⟩

/-- A comparison as a document of operators. -/
def document (c : Comparison) : Document :=
  [(c.comparator.key, c.bound)]

end Comparison

end DocQuery
