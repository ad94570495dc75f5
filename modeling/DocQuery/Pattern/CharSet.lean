import DocQuery.Text.Blank
import DocQuery.Unicode.Digit
import DocQuery.Unicode.Folding
import DocQuery.Unicode.Property
import DocQuery.Unicode.Word

/-!
# Sets of Characters

The sets that a pattern can ask a character to belong to. They are built from
ranges and from the three properties that have names of their own, by set
operations and by closing a set under changes of case.

## Main definitions

* `CharSet`: A set of characters.
* `CharSet.contains`: Membership.
* `CharSet.bounds`: The ranges of a set, in order.
* `CharSet.one`, `empty`, `union`: Sets that are needed often.

## Theorems

* `CharSet.contains_union`, `contains_one`: Membership in those sets.
* `CharSet.contains_caseless`: A caseless character stands for all that fold
  to the same.
-/

namespace DocQuery

/-- An operation on two sets. -/
inductive SetOp where
  | union
  | intersection
  | difference
  | symmetricDifference
deriving DecidableEq

/-- Does an element belong to the result, given where it belongs? -/
def SetOp.apply : SetOp → Bool → Bool → Bool
  | .union, a, b => a || b
  | .intersection, a, b => a && b
  | .difference, a, b => a && !b
  | .symmetricDifference, a, b => a != b

/-- The result for ranges. -/
def SetOp.ranges : SetOp → Unicode.Ranges → Unicode.Ranges → Unicode.Ranges
  | .union, r, s => r.union s
  | .intersection, r, s => r.intersection s
  | .difference, r, s => r.without s
  | .symmetricDifference, r, s => r.difference s

/-- A set of characters. -/
inductive CharSet where
  /-- The characters whose code points lie in one of the ranges. -/
  | ranges (bounds : List (Nat × Nat))
  /-- The characters that differ from one character in case only. -/
  | caseless (c : Char)
  | blank
  | digit
  | word
  /-- The characters that differ in case only from one in the set, where case
      is a matter of ASCII letters only or not. -/
  | folded (ascii : Bool) (s : CharSet)
  | negated (s : CharSet)
  | combine (op : SetOp) (s t : CharSet)

namespace CharSet

/-- A letter of ASCII in both cases, or any other character alone. -/
def asciiOrbit (c : Char) : List Char :=
  if c.isUpper then [c, c.toLower] else if c.isLower then [c, c.toUpper] else [c]

/-- Does a character belong to a set? -/
def contains : CharSet → Char → Bool
  | ranges bounds, c => Unicode.inRanges bounds c.toNat
  | caseless d, c => Unicode.sameFold d c
  | blank, c => Text.isBlank c
  | digit, c => Unicode.isDecimalDigit c
  | word, c => Unicode.isWord c
  | folded ascii s, c => (if ascii then asciiOrbit c else Unicode.orbit c).any s.contains
  | negated s, c => !s.contains c
  | combine op s t, c => op.apply (s.contains c) (t.contains c)

/-- The ranges of code points of a set, surrogates included. -/
def codeRanges : CharSet → Unicode.Ranges
  | ranges bounds => Unicode.Ranges.normal bounds
  | caseless c => Unicode.Ranges.normal ((Unicode.orbit c).map fun d => (d.toNat, d.toNat))
  | blank => Unicode.Definition.whiteSpace.ranges
  | digit => (48, 57) :: Unicode.digitRanges
  | word => Unicode.wordRanges.foldl (fun r part => r.union part)
      [(48, 57), (65, 90), (95, 95), (97, 122)]
  | folded ascii s => Unicode.caseClosure ascii s.codeRanges
  | negated s => s.codeRanges.complement
  | combine op s t => op.ranges s.codeRanges t.codeRanges

/-- The ranges of a set, in order. -/
def bounds (s : CharSet) : Unicode.Ranges :=
  Unicode.Ranges.without s.codeRanges [(0xD800, 0xDFFF)]

/-- The set without elements. -/
def empty : CharSet := ranges []

/-- The set of one character. -/
def one (c : Char) : CharSet := ranges [(c.toNat, c.toNat)]

/-- The elements of two sets together. -/
def union (s t : CharSet) : CharSet := combine .union s t

theorem contains_empty (c : Char) : empty.contains c = false := rfl

theorem contains_union (s t : CharSet) (c : Char) :
    (union s t).contains c = (s.contains c || t.contains c) := rfl

theorem contains_caseless (c d : Char) :
    (caseless c).contains d = true ↔ Unicode.fold c = Unicode.fold d := by
  simp [contains, Unicode.sameFold]

theorem contains_one (c d : Char) : (one c).contains d = true ↔ d = c := by
  simp only [one, contains, Unicode.inRanges, List.any_cons, List.any_nil, Bool.or_false,
    Bool.and_eq_true, decide_eq_true_eq]
  constructor
  · rintro ⟨h₁, h₂⟩
    exact Char.toNat_inj.mp (Nat.le_antisymm h₂ h₁)
  · rintro rfl
    exact ⟨Nat.le_refl _, Nat.le_refl _⟩

end CharSet

end DocQuery
