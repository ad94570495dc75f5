/-!
# Blank Characters

The characters with the Unicode property White_Space, and removing them from
the two ends of a text. A text is a list of characters here, as in every
module that reads or writes one; `String` appears only where a value is
stored.

## Main definitions

* `isBlank`: The property White_Space.
* `trimStart`, `trimEnd`, `trim`: A text without the blanks at its start, at
  its end, or at both.

## Theorems

* `isBlank_of_isWhitespace`: The blanks of the ASCII range are among them.
* `trimStart_of_not_isBlank`: A text that starts with another character keeps
  its start.
-/

namespace DocQuery

namespace Text

/-- The property White_Space: the five controls from tab to carriage return,
    the space, and the blanks outside ASCII. -/
def isBlank (c : Char) : Bool :=
  let n := c.toNat
  (9 ≤ n && n ≤ 13) || n == 0x20 || n == 0x85 || n == 0xA0 || n == 0x1680 ||
    (0x2000 ≤ n && n ≤ 0x200A) || n == 0x2028 || n == 0x2029 || n == 0x202F ||
    n == 0x205F || n == 0x3000

/-- The text from its first character that is not blank. -/
def trimStart (s : List Char) : List Char :=
  s.dropWhile isBlank

/-- The text up to its last character that is not blank. -/
def trimEnd (s : List Char) : List Char :=
  (s.reverse.dropWhile isBlank).reverse

/-- The text without the blanks at either end. -/
def trim (s : List Char) : List Char :=
  trimEnd (trimStart s)

theorem isBlank_of_isWhitespace (c : Char) (h : c.isWhitespace = true) : isBlank c = true := by
  simp only [Char.isWhitespace, Bool.or_eq_true, decide_eq_true_eq] at h
  rcases h with ((rfl | rfl) | rfl) | rfl <;> decide

theorem trimStart_of_not_isBlank (c : Char) (s : List Char) (h : isBlank c = false) :
    trimStart (c :: s) = c :: s := by
  simp only [trimStart, List.dropWhile_cons, h, Bool.false_eq_true, if_false]

end Text

end DocQuery
