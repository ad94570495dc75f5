import DocQuery.Request.Comparison
import Mathlib.Data.List.Basic
import Mathlib.Data.List.Induction
import Mathlib.Data.List.TakeWhile
import Mathlib.Tactic.Common

/-!
# Marked Words

What the search for the words for comparisons comes to. A word is found where
it is a run of word characters as a whole: with an edge on both sides, nothing
but the longest run fits, so the order in which the words are tried does not
matter. A place between a character that belongs to no word and another one is
no place inside a run, so the two sides of such a character are marked each on
its own.

Marking inserts dollar signs and nothing else. As neither they nor the words
are blank, it makes no difference whether a text is trimmed before or after.

The search runs over the text from left to right with two pieces of state, the
character before and a number of characters to skip, as it goes on behind a word
it has found. An induction on the text therefore has to be for all states. What
keeps it going is a bound on the number to skip: it never reaches past the run
of word characters in front of it, so a character outside of words is always
looked at (`markFrom_append`).

## Main definitions

* `Comparator.StandsIn`: Does the word for a comparison stand alone in a text?

## Theorems

* `Comparator.wordAt?_eq_some_iff`: A word is found where the run is this word.
* `Comparator.mark_append`: The two sides of a character outside of words.
* `Comparator.sublist_mark`, `filter_mark`: Marking inserts dollar signs.
* `Comparator.mark_eq_self_iff`: A text without a word on its own stays as it is.
* `Comparator.trim_mark`: Marking and trimming.
-/

namespace DocQuery

open Unicode (isWord)

/-- Blanks belong to no words. -/
theorem not_isWord_of_isBlank (c : Char) (h : Text.isBlank c = true) : isWord c = false := by
  have hcodes : ∀ n ∈ [9, 10, 11, 12, 13, 0x20, 0x85, 0xA0, 0x1680, 0x2000, 0x2001, 0x2002, 0x2003,
      0x2004, 0x2005, 0x2006, 0x2007, 0x2008, 0x2009, 0x200A, 0x2028, 0x2029, 0x202F, 0x205F,
      0x3000], (if n < 128 then Unicode.isAsciiWord n
        else Unicode.inAnyRange Unicode.wordRanges n) = false := by
    decide +kernel
  refine hcodes c.toNat ?_
  simp only [Text.isBlank, Bool.or_eq_true, Bool.and_eq_true, decide_eq_true_eq, beq_iff_eq] at h
  simp only [List.mem_cons, List.not_mem_nil, or_false]
  omega

namespace Comparator

theorem all_isWord_word (c : Comparator) : c.word.toList.all isWord = true := by
  cases c with
  | _ => decide

theorem isWord_of_mem_word (c : Comparator) : ∀ x ∈ c.word.toList, isWord x = true :=
  List.all_eq_true.mp c.all_isWord_word

theorem inWord_head?_word (c : Comparator) (s : List Char) :
    Spot.inWord false (c.word.toList ++ s).head? = true := by
  cases c with
  | _ => rfl

theorem inWord_getLast?_word (c : Comparator) :
    Spot.inWord false c.word.toList.getLast? = true := by
  cases c with
  | _ => decide

theorem word_ne_nil (c : Comparator) : c.word.toList ≠ [] := by
  cases c with
  | _ => decide

theorem eq_of_toList_word_eq (c d : Comparator) (h : c.word.toList = d.word.toList) : c = d := by
  have hword := (ofWord?_eq_some_iff d.word c).mpr (String.toList_inj.mp h)
  rw [(ofWord?_eq_some_iff d.word d).mpr rfl] at hword
  exact (Option.some.inj hword).symm

/-- The run of word characters at the front of a text is the given one if this
    is followed by something else. -/
theorem takeWhile_isWord_append (run rest : List Char) (hrun : ∀ c ∈ run, isWord c = true)
    (hrest : Spot.inWord false rest.head? = false) : (run ++ rest).takeWhile isWord = run := by
  rw [List.takeWhile_append_of_pos hrun]
  rcases rest with _ | ⟨c, rest⟩
  · exact List.append_nil run
  · have hc : isWord c = false := hrest
    rw [List.takeWhile_cons_of_neg (Bool.eq_false_iff.mp hc), List.append_nil]

theorem inWord_head?_dropWhile (s : List Char) :
    Spot.inWord false (s.dropWhile isWord).head? = false := by
  induction s with
  | nil => rfl
  | cons c s ih =>
      rw [List.dropWhile_cons]
      split
      · exact ih
      · rename_i hc
        exact (Bool.not_eq_true _).mp hc

/-- The word for a comparison is at a place, with edges on both sides, exactly
    if it is the run of word characters there as a whole. -/
theorem isPrefixOf_edges_iff (before : Option Char) (s : List Char) (c : Comparator) :
    (isEdge before s && c.word.toList.isPrefixOf s &&
        isEdge c.word.toList.getLast? (s.drop c.word.toList.length)) = true ↔
      Spot.inWord false before = false ∧ s.takeWhile isWord = c.word.toList := by
  unfold isEdge
  rw [Bool.and_eq_true, Bool.and_eq_true, List.isPrefixOf_iff_prefix, inWord_getLast?_word]
  constructor
  · -- The word is in front of a rest that starts with no word character, so it is the whole
    -- run.
    rintro ⟨⟨hbefore, rest, rfl⟩, hafter⟩
    rw [inWord_head?_word] at hbefore
    rw [List.drop_left] at hafter
    refine ⟨?_, takeWhile_isWord_append _ rest c.isWord_of_mem_word ?_⟩
    · simpa [WordEdge.holds] using hbefore
    · simpa [WordEdge.holds] using hafter
  · rintro ⟨hbefore, hrun⟩
    -- The run is the word, and the edge behind it is where the run ends.
    have hs : s = c.word.toList ++ s.dropWhile isWord := by
      rw [← hrun, List.takeWhile_append_dropWhile]
    have hrest := inWord_head?_dropWhile s
    generalize s.dropWhile isWord = rest at hs hrest
    subst hs
    rw [inWord_head?_word, hbefore, List.drop_left, hrest]
    exact ⟨⟨rfl, List.prefix_append _ _⟩, rfl⟩

/-- A word is found at a place exactly if no word reaches up to it and the run of
    word characters from there on is this word. -/
theorem wordAt?_eq_some_iff (before : Option Char) (s : List Char) (c : Comparator) :
    wordAt? before s = some c ↔
      Spot.inWord false before = false ∧ s.takeWhile isWord = c.word.toList := by
  rw [← isPrefixOf_edges_iff]
  constructor
  · intro h
    exact (List.find?_eq_some_iff_append.mp h).1
  · intro h
    rcases hfound : wordAt? before s with _ | d
    · have hall : c ∈ all := by
        cases c with
        | _ => decide
      exact absurd h (List.find?_eq_none.mp hfound c hall)
    · -- Only one word is the run as a whole, so the first one is the only one.
      have hfirst := (List.find?_eq_some_iff_append.mp hfound).1
      have hd := ((isPrefixOf_edges_iff before s d).mp hfirst).2
      have hc := ((isPrefixOf_edges_iff before s c).mp h).2
      rw [eq_of_toList_word_eq c d (hc.symm.trans hd)]

/-- What is found at a place depends on the edge before it and the run behind
    it. -/
theorem wordAt?_congr (before before' : Option Char) (s s' : List Char)
    (hbefore : Spot.inWord false before = Spot.inWord false before')
    (hrun : s.takeWhile isWord = s'.takeWhile isWord) : wordAt? before s = wordAt? before' s' := by
  refine Option.ext fun c => ?_
  rw [wordAt?_eq_some_iff, wordAt?_eq_some_iff, hbefore, hrun]

/-- A run of word characters goes on behind the first character of a word as far
    as the word does. -/
theorem length_takeWhile_of_wordAt? (before : Option Char) (x : Char) (s : List Char)
    (c : Comparator) (h : wordAt? before (x :: s) = some c) :
    (s.takeWhile isWord).length = c.word.toList.length - 1 := by
  have hrun := ((wordAt?_eq_some_iff before (x :: s) c).mp h).2
  rw [List.takeWhile_cons] at hrun
  split at hrun
  · rw [← hrun, List.length_cons, Nat.add_sub_cancel]
  · exact absurd hrun.symm c.word_ne_nil

/-- Of the character before, the search needs only whether it belongs to a word. -/
theorem markFrom_congr (before before' : Option Char)
    (h : Spot.inWord false before = Spot.inWord false before') (skip : Nat) (s : List Char) :
    markFrom before skip s = markFrom before' skip s := by
  cases s with
  | nil => rw [markFrom, markFrom]
  | cons c s =>
      cases skip with
      | succ skip => rw [markFrom, markFrom]
      | zero => rw [markFrom, markFrom, wordAt?_congr before before' (c :: s) (c :: s) h rfl]

theorem takeWhile_isWord_append_cons (a b : List Char) (c : Char) (h : isWord c = false) :
    (a ++ c :: b).takeWhile isWord = a.takeWhile isWord := by
  induction a with
  | nil => exact List.takeWhile_cons_of_neg (Bool.eq_false_iff.mp h)
  | cons x a ih => rw [List.cons_append, List.takeWhile_cons, List.takeWhile_cons, ih]

/-- The search never skips a character that belongs to no word, so it starts anew
    behind it. -/
theorem markFrom_append (before : Option Char) (skip : Nat) (a b : List Char) (c : Char)
    (hc : isWord c = false) (hskip : skip ≤ (a.takeWhile isWord).length) :
    markFrom before skip (a ++ c :: b) = markFrom before skip a ++ c :: markFrom (some c) 0 b := by
  induction a generalizing before skip with
  | nil =>
      have hnone : wordAt? before (c :: b) = none := by
        refine Option.eq_none_iff_forall_ne_some.mpr fun d hd => ?_
        have hrun := ((wordAt?_eq_some_iff before (c :: b) d).mp hd).2
        rw [List.takeWhile_cons_of_neg (Bool.eq_false_iff.mp hc)] at hrun
        exact d.word_ne_nil hrun.symm
      rw [Nat.le_zero.mp hskip]
      simp only [List.nil_append, markFrom, hnone]
  | cons x a ih =>
      rw [List.cons_append]
      cases skip with
      | succ skip =>
          -- What is skipped is within the run, so the run goes on at least one character
          -- further.
          rw [List.takeWhile_cons] at hskip
          split at hskip
          · rw [markFrom, markFrom, ih _ _ (Nat.le_of_succ_le_succ hskip), List.cons_append]
          · exact absurd hskip (Nat.not_succ_le_zero skip)
      | zero =>
          have hword : wordAt? before (x :: (a ++ c :: b)) = wordAt? before (x :: a) :=
            wordAt?_congr before before _ _ rfl (takeWhile_isWord_append_cons (x :: a) b c hc)
          rw [markFrom, markFrom, hword]
          rcases hfound : wordAt? before (x :: a) with _ | d
          · simp only
            rw [ih _ _ (Nat.zero_le _), List.cons_append]
          · simp only
            rw [ih _ _ (length_takeWhile_of_wordAt? before x a d hfound).ge, List.cons_append,
              List.cons_append]

/-- The two sides of a character that belongs to no word are marked each on its
    own. -/
theorem mark_append (a b : List Char) (c : Char) (h : isWord c = false) :
    mark (a ++ c :: b) = mark a ++ c :: mark b := by
  unfold mark
  rw [markFrom_append none 0 a b c h (Nat.zero_le _), markFrom_congr (some c) none h]

/-- Nothing is taken away by marking. -/
theorem sublist_markFrom (before : Option Char) (skip : Nat) (s : List Char) :
    s.Sublist (markFrom before skip s) := by
  induction s generalizing before skip with
  | nil => exact List.nil_sublist _
  | cons c s ih =>
      cases skip with
      | succ skip =>
          rw [markFrom]
          exact (ih _ _).cons_cons c
      | zero =>
          rw [markFrom]
          split
          · exact ((ih _ _).cons_cons c).cons '$'
          · exact (ih _ _).cons_cons c

theorem sublist_mark (s : List Char) : s.Sublist (mark s) :=
  sublist_markFrom none 0 s

/-- Nothing but dollar signs is added by marking. -/
theorem filter_markFrom (before : Option Char) (skip : Nat) (s : List Char) :
    (markFrom before skip s).filter (· ≠ '$') = s.filter (· ≠ '$') := by
  induction s generalizing before skip with
  | nil => rw [markFrom]
  | cons c s ih =>
      cases skip with
      | succ skip => rw [markFrom, List.filter_cons, List.filter_cons, ih]
      | zero =>
          rw [markFrom]
          split
          · rw [List.filter_cons_of_neg (by decide), List.filter_cons, List.filter_cons, ih]
          · rw [List.filter_cons, List.filter_cons, ih]

theorem filter_mark (s : List Char) : (mark s).filter (· ≠ '$') = s.filter (· ≠ '$') :=
  filter_markFrom none 0 s

/-- Does the word for a comparison stand alone in a text, with no word
    characters next to it? -/
def StandsIn (c : Comparator) (s : List Char) : Prop :=
  ∃ before after, s = before ++ c.word.toList ++ after ∧
    Spot.inWord false before.getLast? = false ∧ Spot.inWord false after.head? = false

/-- Two texts are marked each on its own if the first one does not end inside a
    word. -/
theorem mark_append_of_edge (a b : List Char) (h : Spot.inWord false a.getLast? = false) :
    mark (a ++ b) = mark a ++ mark b := by
  rcases List.eq_nil_or_concat' a with rfl | ⟨a, c, rfl⟩
  · rfl
  · rw [List.getLast?_concat] at h
    have hc : isWord c = false := h
    have hself : mark (a ++ [c]) = mark a ++ [c] := mark_append a [] c hc
    rw [hself, List.append_assoc, List.append_assoc]
    exact mark_append a b c hc

/-- A word on its own is found, so its text becomes longer. -/
theorem mark_ne_self_of_standsIn (c : Comparator) (s : List Char) (h : c.StandsIn s) :
    mark s ≠ s := by
  rcases h with ⟨before, after, rfl, hbefore, hafter⟩
  have hrun := takeWhile_isWord_append c.word.toList after c.isWord_of_mem_word hafter
  have hfound : wordAt? none (c.word.toList ++ after) = some c :=
    (wordAt?_eq_some_iff _ _ _).mpr ⟨rfl, hrun⟩
  intro hself
  rw [List.append_assoc, mark_append_of_edge before _ hbefore] at hself
  -- Both sides only get longer, and the one that starts with the word gets longer by one.
  have hlength := congrArg List.length hself
  rw [List.length_append, List.length_append] at hlength
  have hfront := (sublist_mark before).length_le
  rcases htext : c.word.toList ++ after with _ | ⟨x, rest⟩
  · exact c.word_ne_nil (List.append_eq_nil_iff.mp htext).1
  · rw [htext] at hfound hlength
    have hback := (sublist_markFrom (some x) (c.word.toList.length - 1) rest).length_le
    rw [mark, mark, markFrom, hfound] at hlength
    simp only [List.length_cons] at hlength
    rw [mark] at hfront
    omega

/-- Where the search changes a text, there is a word on its own. -/
theorem exists_of_markFrom_ne (before : Option Char) (skip : Nat) (s : List Char)
    (h : markFrom before skip s ≠ s) :
    ∃ (c : Comparator) (front rest : List Char), s = front ++ c.word.toList ++ rest ∧
      Spot.inWord false (front.getLast?.or before) = false ∧
      Spot.inWord false rest.head? = false := by
  induction s generalizing before skip with
  | nil =>
      rw [markFrom] at h
      exact absurd rfl h
  | cons x s ih =>
      -- What is found further on is found behind the first character.
      have hrest : ∀ skip, markFrom (some x) skip s ≠ s →
          ∃ (c : Comparator) (front rest : List Char), x :: s = front ++ c.word.toList ++ rest ∧
            Spot.inWord false (front.getLast?.or before) = false ∧
            Spot.inWord false rest.head? = false := by
        intro skip hne
        rcases ih (some x) skip hne with ⟨c, front, rest, hs, hfront, hrest⟩
        refine ⟨c, x :: front, rest, ?_, ?_, hrest⟩
        · rw [hs]
          rfl
        · rw [List.getLast?_cons]
          cases hlast : front.getLast? with
          | none =>
              rw [hlast] at hfront
              exact hfront
          | some y =>
              rw [hlast] at hfront
              exact hfront
      cases skip with
      | succ skip =>
          rw [markFrom] at h
          exact hrest skip fun hself => h (congrArg _ hself)
      | zero =>
          rw [markFrom] at h
          rcases hfound : wordAt? before (x :: s) with _ | c
          · rw [hfound] at h
            exact hrest 0 fun hself => h (congrArg _ hself)
          · rcases (wordAt?_eq_some_iff before (x :: s) c).mp hfound with ⟨hbefore, hrun⟩
            refine ⟨c, [], (x :: s).dropWhile isWord, ?_, hbefore, inWord_head?_dropWhile _⟩
            rw [← hrun, List.nil_append, List.takeWhile_append_dropWhile]

/-- A text stays as it is exactly if no word for a comparison stands alone in
    it. -/
theorem mark_eq_self_iff (s : List Char) : mark s = s ↔ ∀ c : Comparator, ¬c.StandsIn s := by
  constructor
  · intro hself c hc
    exact mark_ne_self_of_standsIn c s hc hself
  · intro h
    by_contra hne
    rcases exists_of_markFrom_ne none 0 s hne with ⟨c, front, rest, hs, hfront, hrest⟩
    rw [Option.or_none] at hfront
    exact h c ⟨front, rest, hs, hfront, hrest⟩

theorem mark_cons_of_isBlank (c : Char) (s : List Char) (h : Text.isBlank c = true) :
    mark (c :: s) = c :: mark s :=
  mark_append [] s c (not_isWord_of_isBlank c h)

/-- Blanks at the start may be taken away before or after marking. -/
theorem trimStart_mark (s : List Char) : Text.trimStart (mark s) = mark (Text.trimStart s) := by
  induction s with
  | nil => rfl
  | cons c s ih =>
      by_cases hc : Text.isBlank c = true
      · rw [mark_cons_of_isBlank c s hc]
        unfold Text.trimStart at ih ⊢
        rw [List.dropWhile_cons_of_pos hc, List.dropWhile_cons_of_pos hc, ih]
      · rw [Bool.not_eq_true] at hc
        rw [Text.trimStart_of_not_isBlank c s hc, mark, markFrom]
        split
        · exact Text.trimStart_of_not_isBlank '$' _ (by decide)
        · exact Text.trimStart_of_not_isBlank c _ hc

/-- Marks stand in front of words, so the end of a text stays. -/
theorem getLast?_markFrom (before : Option Char) (skip : Nat) (s : List Char) :
    (markFrom before skip s).getLast? = s.getLast? := by
  induction s generalizing before skip with
  | nil => rw [markFrom]
  | cons c s ih =>
      cases skip with
      | succ skip => rw [markFrom, List.getLast?_cons, List.getLast?_cons, ih]
      | zero =>
          rw [markFrom]
          split
          · rw [List.getLast?_cons, List.getLast?_cons, List.getLast?_cons, ih]
            rfl
          · rw [List.getLast?_cons, List.getLast?_cons, ih]

theorem trimEnd_concat_of_isBlank (s : List Char) (c : Char) (h : Text.isBlank c = true) :
    Text.trimEnd (s ++ [c]) = Text.trimEnd s := by
  rw [Text.trimEnd, List.reverse_append, List.reverse_singleton, List.singleton_append,
    List.dropWhile_cons_of_pos h, Text.trimEnd]

theorem trimEnd_of_getLast? (s : List Char) (c : Char) (hlast : s.getLast? = some c)
    (h : Text.isBlank c = false) : Text.trimEnd s = s := by
  rcases List.getLast?_eq_some_iff.mp hlast with ⟨front, rfl⟩
  rw [Text.trimEnd, List.reverse_append, List.reverse_singleton, List.singleton_append,
    List.dropWhile_cons_of_neg (Bool.eq_false_iff.mp h), List.reverse_cons, List.reverse_reverse]

/-- So may blanks at the end, as marks stand in front of words only. -/
theorem trimEnd_mark (s : List Char) : Text.trimEnd (mark s) = mark (Text.trimEnd s) := by
  induction s using List.reverseRecOn with
  | nil => rfl
  | append_singleton s c ih =>
      by_cases hc : Text.isBlank c = true
      · have hmark : mark (s ++ [c]) = mark s ++ [c] :=
          mark_append s [] c (not_isWord_of_isBlank c hc)
        rw [hmark, trimEnd_concat_of_isBlank _ c hc, trimEnd_concat_of_isBlank s c hc, ih]
      · rw [Bool.not_eq_true] at hc
        -- A text that ends with no blank ends with the same character when it is marked.
        have hlast : (s ++ [c]).getLast? = some c := List.getLast?_concat
        rw [trimEnd_of_getLast? _ c hlast hc]
        exact trimEnd_of_getLast? _ c ((getLast?_markFrom none 0 _).trans hlast) hc

/-- It makes no difference whether a text is trimmed before it is marked or
    after. -/
theorem trim_mark (s : List Char) : Text.trim (mark s) = mark (Text.trim s) := by
  rw [Text.trim, trimStart_mark, trimEnd_mark, Text.trim]

end Comparator

end DocQuery
