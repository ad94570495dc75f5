import DocQuery.Proofs.Request.Comparison
import Mathlib.Data.List.SplitBy

/-!
# Runs of Word Characters

A text falls into runs, which are of word characters only or of other characters
only and go on as far as they can. There is one way to take it apart so. Marking
puts a dollar sign in front of each run that is the word for a comparison, and
that is all it does.

The search for words knows of no runs. It tries one word after the other at
every place, and one of them starts with another one. What brings the two
together is that a search may be broken off and started anew at every place that
has no word characters on both sides, and the ends of runs are such places. What
is left is a single run, and in it a word stands alone only if it is all of it.

The runs are defined by splitting a list wherever two neighbours are of
different kinds, but stated by what makes them runs (`Text.IsRuns`). The
statement does not depend on how a text is split, so a reader need not trust the
splitting, and the proof that marking goes run by run is an induction on any
parts with these properties.

## Main definitions

* `Text.runs`: The runs of a text.
* `Text.IsRuns`: What makes parts of a text its runs.
* `Comparator.markRun`: The mark of a run.

## Theorems

* `Text.isRuns_iff`: A text has its runs and no others.
* `Comparator.mark_append_of_parted`: Texts that no word holds together.
* `Comparator.mark_of_uniform`: A run on its own.
* `Comparator.mark_eq_flatMap_runs`: Marking a text is marking its runs.
-/

namespace DocQuery

open Unicode (isWord)

namespace Text

/-- The longest parts of a text that are of word characters only or of other
    characters only, in their order. -/
def runs (s : List Char) : List (List Char) :=
  s.splitBy fun a b => isWord a == isWord b

/-- All characters of a text belong to words, or none of them does. -/
def Uniform (s : List Char) : Prop :=
  ∃ kind, ∀ c ∈ s, isWord c = kind

/-- A text is made of parts with characters of one kind each, and no two
    neighbours could be put together. -/
structure IsRuns (s : List Char) (parts : List (List Char)) : Prop where
  flatten_eq : parts.flatten = s
  ne_nil : ∀ part ∈ parts, part ≠ []
  uniform : ∀ part ∈ parts, Uniform part
  alternate : parts.IsChain fun a b => ∀ c ∈ a, ∀ d ∈ b, isWord c ≠ isWord d

/-- Characters are of one kind exactly if each is of the kind of the one before. -/
theorem isChain_iff_uniform (s : List Char) :
    (s.IsChain fun a b => (isWord a == isWord b) = true) ↔ Uniform s := by
  induction s with
  | nil => exact ⟨fun _ => ⟨true, by simp⟩, fun _ => List.isChain_nil⟩
  | cons c s ih =>
      rw [List.isChain_cons, ih]
      constructor
      · rintro ⟨hhead, kind, hkind⟩
        refine ⟨isWord c, List.forall_mem_cons.mpr ⟨rfl, fun d hd => ?_⟩⟩
        -- The next character has the kind of this one, and the rest has that of the next one.
        rcases s with _ | ⟨next, s⟩
        · cases hd
        · have hnext := beq_iff_eq.mp (hhead next rfl)
          rw [hkind d hd, hnext, hkind next List.mem_cons_self]
      · rintro ⟨kind, hkind⟩
        rw [List.forall_mem_cons] at hkind
        refine ⟨fun d hd => beq_iff_eq.mpr ?_, kind, hkind.2⟩
        rw [hkind.1, hkind.2 d (List.mem_of_mem_head? hd)]

/-- Two parts are of different kinds exactly if the characters are where they
    meet. -/
theorem ends_differ_iff (a b : List Char) (ha : Uniform a) (hb : Uniform b) (hane : a ≠ [])
    (hbne : b ≠ []) :
    (∃ (ha : a ≠ []) (hb : b ≠ []), (isWord (a.getLast ha) == isWord (b.head hb)) = false) ↔
      ∀ c ∈ a, ∀ d ∈ b, isWord c ≠ isWord d := by
  rcases ha with ⟨kindA, hkindA⟩
  rcases hb with ⟨kindB, hkindB⟩
  constructor
  · rintro ⟨ha, hb, hends⟩ c hc d hd
    rw [hkindA _ (List.getLast_mem ha), hkindB _ (List.head_mem hb)] at hends
    rw [hkindA c hc, hkindB d hd]
    exact beq_eq_false_iff_ne.mp hends
  · intro h
    exact ⟨hane, hbne, beq_eq_false_iff_ne.mpr
      (h _ (List.getLast_mem hane) _ (List.head_mem hbne))⟩

/-- A text can be taken apart into runs in one way only. -/
theorem isRuns_iff (s : List Char) (parts : List (List Char)) :
    IsRuns s parts ↔ parts = runs s := by
  -- The library says what splitting does by the ends of neighbouring parts.
  rw [eq_comm, runs, List.splitBy_eq_iff]
  constructor
  · intro h
    refine ⟨h.flatten_eq.symm, fun hnil => h.ne_nil [] hnil rfl, fun part hpart => ?_, ?_⟩
    · exact (isChain_iff_uniform part).mpr (h.uniform part hpart)
    · exact h.alternate.imp_of_mem_imp fun a b ha hb =>
        (ends_differ_iff a b (h.uniform a ha) (h.uniform b hb) (h.ne_nil a ha) (h.ne_nil b hb)).mpr
  · rintro ⟨hflatten, hnil, hchain, hends⟩
    have hne : ∀ part ∈ parts, part ≠ [] := by
      rintro part hpart rfl
      exact hnil hpart
    have huniform : ∀ part ∈ parts, Uniform part := fun part hpart =>
      (isChain_iff_uniform part).mp (hchain part hpart)
    exact ⟨hflatten.symm, hne, huniform, hends.imp_of_mem_imp fun a b ha hb =>
      (ends_differ_iff a b (huniform a ha) (huniform b hb) (hne a ha) (hne b hb)).mp⟩

end Text

namespace Comparator

/-- The words for comparisons. -/
def words : List (List Char) :=
  all.map fun c => c.word.toList

/-- A run with a dollar sign in front of it if it is the word for a
    comparison. -/
def markRun (run : List Char) : List Char :=
  if run ∈ words then '$' :: run else run

theorem mem_words_iff (s : List Char) : s ∈ words ↔ ∃ c : Comparator, s = c.word.toList := by
  unfold words
  rw [List.mem_map]
  constructor
  · rintro ⟨c, -, rfl⟩
    exact ⟨c, rfl⟩
  · rintro ⟨c, rfl⟩
    refine ⟨c, ?_, rfl⟩
    cases c with
    | _ => decide

/-- Two texts are marked each on its own if there are not word characters on both
    sides of the place where they meet. -/
theorem mark_append_of_parted (a b : List Char)
    (h : Spot.inWord false a.getLast? = false ∨ Spot.inWord false b.head? = false) :
    mark (a ++ b) = mark a ++ mark b := by
  rcases h with ha | hb
  · exact mark_append_of_edge a b ha
  · rcases b with _ | ⟨c, b⟩
    · rw [List.append_nil]
      exact (List.append_nil _).symm
    · have hc : isWord c = false := hb
      have hself : mark (c :: b) = c :: mark b := mark_append [] b c hc
      rw [mark_append a b c hc, hself]

/-- A neighbour that could only be a word character and is none is not there. -/
theorem eq_none_of_not_inWord (neighbour : Option Char)
    (h : Spot.inWord false neighbour = false) (hword : ∀ c ∈ neighbour, isWord c = true) :
    neighbour = none := by
  rcases neighbour with _ | c
  · rfl
  · have hc : isWord c = false := h
    rw [hword c rfl] at hc
    cases hc

/-- A word stands alone in a run only if it is all of it. -/
theorem eq_word_of_standsIn (c : Comparator) (s : List Char) (hs : Text.Uniform s)
    (h : c.StandsIn s) : s = c.word.toList := by
  rcases h with ⟨before, after, rfl, hbefore, hafter⟩
  rcases hs with ⟨kind, hkind⟩
  -- The run has the characters of the word, so all its characters belong to words.
  have hword : ∀ x ∈ before ++ c.word.toList ++ after, isWord x = true := by
    rcases List.exists_mem_of_ne_nil _ c.word_ne_nil with ⟨x, hx⟩
    have hkindx : isWord x = kind :=
      hkind x (List.mem_append_left _ (List.mem_append_right _ hx))
    rw [← hkindx, c.isWord_of_mem_word x hx] at hkind
    exact hkind
  -- What is next to the word could only be more of it.
  have hfront : before = [] := by
    refine List.getLast?_eq_none_iff.mp (eq_none_of_not_inWord _ hbefore fun x hx => ?_)
    exact hword x (List.mem_append_left _ (List.mem_append_left _ (List.mem_of_getLast? hx)))
  have hback : after = [] := by
    refine List.head?_eq_none_iff.mp (eq_none_of_not_inWord _ hafter fun x hx => ?_)
    exact hword x (List.mem_append_right _ (List.mem_of_head? hx))
  rw [hfront, hback, List.nil_append, List.append_nil]

/-- A run on its own gets a mark if it is the word for a comparison. -/
theorem mark_of_uniform (run : List Char) (h : Text.Uniform run) : mark run = markRun run := by
  unfold markRun
  by_cases hmem : run ∈ words
  · rcases (mem_words_iff run).mp hmem with ⟨c, rfl⟩
    rw [if_pos hmem, mark_word, toList_key]
  · rw [if_neg hmem, mark_eq_self_iff]
    intro c hc
    exact hmem ((mem_words_iff run).mpr ⟨c, eq_word_of_standsIn c run h hc⟩)

/-- A run and those behind it do not meet inside a word. -/
theorem parted_of_alternate (part : List Char) (parts : List (List Char)) (hpart : part ≠ [])
    (hparts : ∀ next ∈ parts, next ≠ [])
    (h : ∀ next ∈ parts.head?, ∀ c ∈ part, ∀ d ∈ next, isWord c ≠ isWord d) :
    Spot.inWord false part.getLast? = false ∨
      Spot.inWord false parts.flatten.head? = false := by
  rcases parts with _ | ⟨next, parts⟩
  · exact Or.inr rfl
  rcases List.eq_nil_or_concat' part with hnil | ⟨front, c, rfl⟩
  · exact absurd hnil hpart
  rcases next with _ | ⟨d, next⟩
  · exact absurd rfl (hparts [] List.mem_cons_self)
  have hdiffer : isWord c ≠ isWord d := h _ rfl c (by simp) d List.mem_cons_self
  rw [List.getLast?_concat, List.flatten_cons, List.cons_append, List.head?_cons]
  -- Of two different kinds one is not that of word characters.
  by_cases hc : isWord c = true
  · right
    rw [hc] at hdiffer
    exact Bool.eq_false_iff.mpr hdiffer.symm
  · left
    exact Bool.eq_false_iff.mpr hc

/-- A text is marked run by run. -/
theorem mark_of_isRuns (s : List Char) (parts : List (List Char)) (h : Text.IsRuns s parts) :
    mark s = parts.flatMap markRun := by
  -- By induction on the parts: the first one and the others do not meet inside a word.
  rcases h with ⟨rfl, hne, huniform, halternate⟩
  induction parts with
  | nil => rfl
  | cons part parts ih =>
      rw [List.forall_mem_cons] at hne huniform
      rw [List.isChain_cons] at halternate
      have hparted := parted_of_alternate part parts hne.1 hne.2 halternate.1
      rw [List.flatten_cons, mark_append_of_parted _ _ hparted, mark_of_uniform part huniform.1,
        ih hne.2 huniform.2 halternate.2, List.flatMap_cons]

/-- To mark a text is to put a dollar sign in front of each of its runs that is
    the word for a comparison and to change nothing else. So the two sides of any
    character that belongs to no word are marked each on its own. -/
theorem mark_eq_flatMap_runs (s : List Char) :
    (∀ parts, Text.IsRuns s parts ↔ parts = Text.runs s) ∧
      mark s = (Text.runs s).flatMap markRun ∧
      ∀ c t, isWord c = false → mark (s ++ c :: t) = mark s ++ c :: mark t := by
  refine ⟨Text.isRuns_iff s, ?_, fun c t hc => mark_append s t c hc⟩
  exact mark_of_isRuns s _ ((Text.isRuns_iff s _).mpr rfl)

/-- The two sides of a comma are marked each on its own, and neither a longer word
    nor one that goes on outside ASCII is taken for a comparison. -/
theorem mark_eq_flatMap_runs_comma :
    isWord ',' = false ∧
      mark ("gt_lt gte".toList ++ ',' :: "lté,lt".toList) =
        mark "gt_lt gte".toList ++ ',' :: mark "lté,lt".toList ∧
      mark "gt_lt gte".toList = "gt_lt $gte".toList ∧
      mark "lté,lt".toList = "lté,$lt".toList := by
  have hcomma : isWord ',' = false := by decide
  have happend := (mark_eq_flatMap_runs "gt_lt gte".toList).2.2 ',' "lté,lt".toList hcomma
  exact ⟨hcomma, happend, by decide, by decide⟩

end Comparator

end DocQuery
