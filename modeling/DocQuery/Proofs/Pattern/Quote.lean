import DocQuery.Pattern.Reader
import Mathlib.Tactic.Common

/-!
# Quoted Texts

A text that is quoted is read as a row of characters, whatever characters it
has. No character of it opens a group, repeats what stands before it or has any
other meaning in a pattern: those that would have one are quoted, and a quoted
character stands for itself. With the flag that case does not matter each
character is read with those that differ from it in case only.

One thing can still go wrong. The automaton for the row may be too large, since
it grows with the text. `Pattern.Fits` is the condition that it is not, and it
is the only one: `Pattern.read_quote_eq` says what becomes of every text.

The reader of patterns keeps the flags of the level that it is in, and these
decide how a character is read. So all lemmas about single characters are stated
for a reader whose flags are those that the prefix has set. Quoted characters do
not change flags, and there are no groups, so the level stays the same to the
end of the text.

## Main definitions

* `Pattern.termOf`: The term of a text whose case does not matter.
* `Pattern.ofText`: The pattern of such a text.
* `Pattern.Fits`: The automaton for such a text is small enough.

## Theorems

* `Pattern.run?_quote_cons`: A quoted character is read as that character.
* `Pattern.run?_quote`: A quoted text is read as its characters.
* `Pattern.read_quote_eq`: A quoted text is a pattern, or it is too large.
-/

namespace DocQuery

namespace Pattern

/-- The flags under which case does not matter. -/
def caselessFlags : Flags :=
  { caseless := true }

/-- The term of a character whose case does not matter. -/
def caselessTerm (c : Char) : Term :=
  .literal false (.caseless c)

/-- The term of a text whose case does not matter. -/
def termOf (s : List Char) : Term :=
  .sequence (.directive :: s.map caselessTerm)

/-- The pattern of a text whose case does not matter. -/
def ofText (s : List Char) : Pattern :=
  (termOf s).pattern

/-- The automaton for a text whose case does not matter is small enough. -/
def Fits (s : List Char) : Prop :=
  (termOf s).form.fits = true

instance (s : List Char) : Decidable (Fits s) :=
  inferInstanceAs (Decidable (_ = true))

/-- A special character with a backslash before it stands for itself. -/
theorem escape?_special (flags : Flags) {c : Char} (h : c ∈ specials) (s : List Char) :
    escape? flags (c :: s) = some (.char c, s) := by
  simp only [specials, List.mem_cons, List.not_mem_nil, or_false] at h
  rcases h with rfl | rfl | rfl | rfl | rfl | rfl | rfl | rfl | rfl | rfl | rfl | rfl | rfl | rfl |
    rfl | rfl | rfl | rfl
  all_goals rfl

/-- Where case does not matter, a character is read with those that differ from
    it in case. -/
theorem literal_caseless {r : Reader} (h : r.level.flags = caselessFlags) (c : Char) :
    r.literal c = caselessTerm c := by
  rw [Reader.literal, h]
  rfl

/-- A quoted special character is put behind the pieces before it. -/
theorem step?_special {r : Reader} (h : r.level.flags = caselessFlags) {c : Char}
    (hc : c ∈ specials) (s : List Char) :
    r.step? '\\' (c :: s) = some (r.push (caselessTerm c), s) := by
  have hstep : r.step? '\\' (c :: s) = r.escape? (c :: s) := rfl
  rw [hstep, Reader.escape?, escape?_special _ hc]
  simp only [Option.map_some, literal_caseless h]

/-- So is a character that needs no quoting. -/
theorem step?_plain {r : Reader} (h : r.level.flags = caselessFlags) {c : Char}
    (hc : c ∉ specials) (s : List Char) : r.step? c s = some (r.push (caselessTerm c), s) := by
  unfold Reader.step?
  split
  -- Each character that a pattern treats in its own way is among the special ones.
  all_goals first
    | exact absurd (by decide) hc
    | simp only [literal_caseless h]

/-- A quoted character is read as that character. -/
theorem run?_quote_cons (fuel : Nat) {r : Reader} (h : r.level.flags = caselessFlags) (c : Char)
    (s : List Char) :
    Reader.run? (fuel + 1) r (quote (c :: s)) =
      Reader.run? fuel (r.push (caselessTerm c)) (quote s) := by
  -- Blanks and comments are skipped only under another flag.
  have hskip : ∀ s, r.level.flags.skip s = s := by
    intro s
    rw [h]
    rfl
  have hcons : quote (c :: s) = (if specials.contains c then ['\\', c] else [c]) ++ quote s := rfl
  rw [hcons, Reader.run?, hskip]
  by_cases hc : c ∈ specials
  · rw [if_pos (List.contains_iff_mem.mpr hc)]
    simp only [List.cons_append, List.nil_append, step?_special h hc]
  · rw [if_neg fun hs => hc (List.contains_iff_mem.mp hs)]
    simp only [List.cons_append, List.nil_append, step?_plain h hc]

/-- Quoting does not make a text shorter, so there is fuel for it. -/
theorem length_le_quote (s : List Char) : s.length ≤ (quote s).length := by
  induction s with
  | nil => exact Nat.le_refl 0
  | cons c s ih =>
      have hcons : quote (c :: s) =
          (if specials.contains c then ['\\', c] else [c]) ++ quote s := rfl
      rw [hcons, List.length_append, List.length_cons]
      split
      · simp only [List.length_cons, List.length_nil]
        omega
      · simp only [List.length_cons, List.length_nil]
        omega

/-- A quoted text is read as its characters, after the pieces before it. -/
theorem run?_quote (fuel : Nat) {r : Reader} (h : r.level.flags = caselessFlags)
    (houter : r.outer = []) (s : List Char) (hfuel : s.length < fuel) :
    Reader.run? fuel r (quote s) =
      some { r.level with pieces := (s.map caselessTerm).reverse ++ r.level.pieces }.term := by
  induction s generalizing fuel r with
  | nil =>
      rcases fuel with _ | fuel
      · omega
      · -- At the end the pieces become the row.
        have hskip : r.level.flags.skip [] = [] := by
          rw [h]
          rfl
        have hnil : quote [] = [] := rfl
        simp only [hnil, Reader.run?, hskip, houter, List.isEmpty_nil, if_true]
        rfl
  -- Each character is one step, and becomes one more piece.
  | cons c s ih =>
      rcases fuel with _ | fuel
      · omega
      · rw [List.length_cons] at hfuel
        have hpush : (r.push (caselessTerm c)).level.flags = caselessFlags := h
        rw [run?_quote_cons fuel h c s, ih fuel hpush houter (by omega)]
        simp only [Reader.push, Level.push, List.map_cons, List.reverse_cons, List.append_assoc,
          List.cons_append, List.nil_append]

/-- The term of a text is not nested deeply, however long the text is. -/
theorem depth_termOf_le (s : List Char) : (termOf s).depth ≤ depthLimit := by
  refine Nat.le_trans (Term.depth_sequence_le _ fun t ht => ?_) (by decide)
  rcases List.mem_cons.mp ht with rfl | ht
  · exact fun _ => rfl
  · rcases List.mem_map.mp ht with ⟨c, -, rfl⟩
    exact fun _ => rfl

/-- A quoted text with the flag that case does not matter is a pattern, unless
    the automaton for it is too large. -/
theorem read_quote_eq (s : List Char) :
    read (['(', '?', 'i', ')'] ++ quote s) = if Fits s then .ok (ofText s) else .error .size := by
  let r : Reader := { level := { flags := caselessFlags, pieces := [.directive] } }
  have hflags : Reader.run? ((['(', '?', 'i', ')'] ++ quote s).length + 1) {}
      (['(', '?', 'i', ')'] ++ quote s) = Reader.run? ((quote s).length + 4) r (quote s) := rfl
  have hlength := length_le_quote s
  have hrun := run?_quote ((quote s).length + 4) (r := r) rfl rfl s (by omega)
  -- The pieces are collected last first, with the flags as the first of them.
  have hterm : { r.level with pieces := (s.map caselessTerm).reverse ++ r.level.pieces }.term =
      termOf s := by
    simp only [Level.term, Level.branch, r, List.reverse_append, List.reverse_reverse,
      List.reverse_cons, List.reverse_nil, List.nil_append, List.cons_append]
    rfl
  rw [read, hflags, hrun, hterm]
  simp only
  rw [if_neg (Nat.not_lt.mpr (depth_termOf_le s))]
  rfl

end Pattern

end DocQuery
