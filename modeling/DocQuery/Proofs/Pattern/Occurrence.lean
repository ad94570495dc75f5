import DocQuery.Proofs.Pattern.Quote
import Mathlib.Data.List.Forall2
import Mathlib.Data.List.Infix

/-!
# Occurrences of a Text

A row of sets matches a run of characters, one of each set, and it occurs in a
text if such a run does: matching starts at every place of the text, and what
is left of the text at a place is one of its ends. For a text whose case does
not matter the run has to fold to the same characters as the text, one by one.

Matching is defined for all patterns, by the spots that a pattern leads to from
given spots, with the text around each of them. Of that only two things are
needed for a row of sets: a set steps over one character that it has, and a row
goes through its sets in turn. What groups, repetitions and looks around do is
of no concern here.

The statement is about runs of the text and not about spots, so that it can be
read without knowing how a pattern is matched. Since folding is applied to
single characters, a run that matches has as many characters as the term.

## Main definitions

* `Unicode.Occurs`: Does a term occur in a text, where case does not matter?

## Theorems

* `Spot.step?_eq_some_iff`, `Spot.after_allFrom`: What a step takes, and the
  places of a text.
* `Pattern.exists_mem_advance_literals`: Where a row of sets leads.
* `Pattern.occursIn_literals`: When a row of sets occurs in a text.
* `Pattern.occursIn_ofText`: When a text whose case does not matter occurs in
  another one.
-/

namespace DocQuery

/-- Does a term occur in a text, where case does not matter? Then there is a
    run of the text that folds to the same characters. -/
def Unicode.Occurs (term text : List Char) : Prop :=
  ∃ run, run <:+: text ∧ run.map Unicode.fold = term.map Unicode.fold

instance (term text : List Char) : Decidable (Unicode.Occurs term text) :=
  decidable_of_iff (term.map Unicode.fold <:+: text.map Unicode.fold) (by
    rw [List.infix_map_iff]
    simp only [Unicode.Occurs, eq_comm])

namespace Spot

/-- A step takes one character of the set off the text that is left. -/
theorem step?_eq_some_iff (spot next : Spot) (s : CharSet) :
    spot.step? s = some next ↔
      ∃ c rest, spot.after = c :: rest ∧ s.contains c = true ∧
        next = ⟨spot.place + 1, some c, rest⟩ := by
  unfold step?
  rcases spot.after with _ | ⟨c, rest⟩
  · simp only [reduceCtorEq, false_and, exists_false]
  dsimp only
  constructor
  · intro h
    split at h
    · rename_i hc
      exact ⟨c, rest, rfl, hc, (Option.some.inj h).symm⟩
    · cases h
  · rintro ⟨_, _, hafter, hc, rfl⟩
    cases hafter
    rw [if_pos hc]

/-- What is left at the places of a text are its ends. -/
theorem after_allFrom (place : Nat) (before : Option Char) (s : List Char) :
    (allFrom place before s).map Spot.after = s.tails := by
  induction s generalizing place before with
  | nil => rfl
  | cons c s ih => rw [allFrom, List.map_cons, ih, List.tails_cons]

end Spot

namespace Pattern

/-- A row leads where its first part and then its other parts lead. -/
theorem advance_sequence_cons (t : Term) (ts : List Term) (spots : List Spot) :
    (Term.sequence (t :: ts)).pattern.advance spots =
      (Term.sequence ts).pattern.advance (t.pattern.advance spots) := by
  rcases ts with _ | ⟨u, us⟩
  · rfl
  · rw [Term.pattern_sequence t (u :: us) (List.cons_ne_nil u us)]
    rfl

/-- A row of sets leads somewhere from a spot at which the text goes on with
    a character of each set. -/
theorem exists_mem_advance_literals (sets : List CharSet) (spots : List Spot) :
    (∃ finish, finish ∈
        (Term.sequence (sets.map (Term.literal false))).pattern.advance spots) ↔
      ∃ spot ∈ spots, ∃ run, run <+: spot.after ∧
        List.Forall₂ (fun s c => CharSet.contains s c = true) sets run := by
  -- A step moves the spots, so the induction on the sets is for any of them.
  induction sets generalizing spots with
  | nil =>
      simp only [List.forall₂_nil_left_iff, exists_eq_right, List.nil_prefix, and_true]
      rfl
  | cons s sets ih =>
      rw [List.map_cons, advance_sequence_cons, ih]
      constructor
      · -- The step over the first set adds its character to the run.
        rintro ⟨next, hnext, run, hrun, hsets⟩
        rcases List.mem_filterMap.mp hnext with ⟨spot, hspot, hstep⟩
        rcases (Spot.step?_eq_some_iff spot next s).mp hstep with ⟨c, rest, hafter, hc, rfl⟩
        refine ⟨spot, hspot, c :: run, ?_, .cons hc hsets⟩
        rw [hafter, List.cons_prefix_cons]
        exact ⟨rfl, hrun⟩
      · rintro ⟨spot, hspot, run, hrun, hsets⟩
        rcases List.forall₂_cons_left_iff.mp hsets with ⟨c, run, hc, hrest, rfl⟩
        rcases hrun with ⟨rest, hafter⟩
        have hstep := (Spot.step?_eq_some_iff spot _ s).mpr ⟨c, run ++ rest, hafter.symm, hc, rfl⟩
        exact ⟨_, List.mem_filterMap.mpr ⟨spot, hspot, hstep⟩, run, List.prefix_append run rest,
          hrest⟩

/-- A row of sets occurs in a text exactly when the text has a run with one
    character of each set. -/
theorem occursIn_literals (sets : List CharSet) (s : List Char) :
    (Term.sequence (sets.map (Term.literal false))).pattern.occursIn s = true ↔
      ∃ run, run <:+: s ∧ List.Forall₂ (fun s c => CharSet.contains s c = true) sets run := by
  have hends : ∀ rest, (∃ spot ∈ Spot.all s, spot.after = rest) ↔ rest <:+ s := by
    intro rest
    rw [← List.mem_tails, ← Spot.after_allFrom 0 none s, List.mem_map]
    rfl
  rw [occursIn, Bool.not_eq_true', List.isEmpty_eq_false_iff_exists_mem,
    exists_mem_advance_literals]
  -- A run of the text is the beginning of one of its ends.
  constructor
  · rintro ⟨spot, hspot, run, hrun, hsets⟩
    exact ⟨run, List.infix_iff_prefix_suffix.mpr
      ⟨spot.after, hrun, (hends _).mp ⟨spot, hspot, rfl⟩⟩, hsets⟩
  · rintro ⟨run, hrun, hsets⟩
    rcases List.infix_iff_prefix_suffix.mp hrun with ⟨rest, hrest, hsuffix⟩
    rcases (hends rest).mpr hsuffix with ⟨spot, hspot, rfl⟩
    exact ⟨spot, hspot, run, hrest, hsets⟩

/-- A text whose case does not matter occurs in another one exactly when that
    has a run which folds to the same characters. -/
theorem occursIn_ofText (term text : List Char) :
    (ofText term).occursIn text = true ↔ Unicode.Occurs term text := by
  -- The flag in front of the text matches nothing.
  have hflag : (ofText term).occursIn text =
      (Term.sequence ((term.map CharSet.caseless).map (Term.literal false))).pattern.occursIn
        text := by
    unfold occursIn ofText termOf
    rw [advance_sequence_cons, List.map_map]
    rfl
  -- A set for each character holds what folds to the same character.
  have hfolds : ∀ run, List.Forall₂ (fun s c => CharSet.contains s c = true)
      (term.map CharSet.caseless) run ↔ run.map Unicode.fold = term.map Unicode.fold := by
    intro run
    rw [eq_comm, ← List.forall₂_eq_eq_eq, List.forall₂_map_left_iff, List.forall₂_map_left_iff,
      List.forall₂_map_right_iff]
    simp only [CharSet.contains_caseless]
  rw [hflag, occursIn_literals]
  simp only [hfolds]
  rfl

end Pattern

end DocQuery
