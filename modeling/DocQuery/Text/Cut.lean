/-!
# Cutting Texts

Taking a text apart at separators. `cut?` splits at the first separator only
and tells whether there was one; `pieces` splits at all of them, so that a
text without a separator is its own single piece and two neighbouring
separators enclose an empty one; `tokens` drops the empty pieces.

The functions are stated for lists of any element, since query strings are
cut as bytes and everything else as characters.

## Main definitions

* `cut?`: The parts before and after the first separator.
* `pieces`: The parts between all separators.
* `tokens`: The parts that are not empty.

## Theorems

* `cut?_eq_none_iff`: There is nothing to cut exactly without a separator.
* `append_of_cut?`: The two parts and one separator make up the text.
* `pieces_ne_nil`: Every text has a piece.
* `not_sep_of_mem_tokens`: No token contains a separator.
-/

namespace DocQuery

namespace Text

variable {α : Type}

/-- The parts of `s` before and after its first element that satisfies
    `sep`. -/
def cut? (sep : α → Bool) : List α → Option (List α × List α)
  | [] => none
  | c :: s => if sep c then some ([], s) else (cut? sep s).map fun p => (c :: p.1, p.2)

/-- The parts of `s` between the elements that satisfy `sep`. -/
def pieces (sep : α → Bool) : List α → List (List α)
  | [] => [[]]
  | c :: s =>
    if sep c then [] :: pieces sep s
    else match pieces sep s with
      | [] => [[c]]
      | p :: ps => (c :: p) :: ps

/-- The parts of `s` between separators that are not empty. -/
def tokens (sep : α → Bool) (s : List α) : List (List α) :=
  (pieces sep s).filter fun p => !p.isEmpty

theorem cut?_eq_none_iff (sep : α → Bool) (s : List α) :
    cut? sep s = none ↔ ∀ c ∈ s, sep c = false := by
  induction s with
  | nil => simp [cut?]
  | cons c s ih =>
      by_cases h : sep c = true
      · simp [cut?, h]
      · simp [cut?, h, ih]

theorem append_of_cut? (sep : α → Bool) (s a b : List α) (h : cut? sep s = some (a, b)) :
    ∃ c, sep c = true ∧ s = a ++ c :: b ∧ ∀ x ∈ a, sep x = false := by
  induction s generalizing a b with
  | nil => simp [cut?] at h
  | cons c s ih =>
      -- Either the text is cut at its first element, or both parts come from the rest.
      by_cases hc : sep c = true
      · simp only [cut?, hc, if_true, Option.some.injEq, Prod.mk.injEq] at h
        rcases h with ⟨rfl, rfl⟩
        exact ⟨c, hc, rfl, by simp⟩
      · simp only [cut?, hc, Bool.false_eq_true, if_false, Option.map_eq_some_iff] at h
        rcases h with ⟨⟨a', b'⟩, hab, heq⟩
        simp only [Prod.mk.injEq] at heq
        rcases heq with ⟨rfl, rfl⟩
        rcases ih a' b' hab with ⟨x, hx, rfl, hall⟩
        refine ⟨x, hx, rfl, ?_⟩
        intro y hy
        rcases List.mem_cons.mp hy with rfl | hy
        · simpa using hc
        · exact hall y hy

theorem pieces_ne_nil (sep : α → Bool) (s : List α) : pieces sep s ≠ [] := by
  cases s with
  | nil => simp [pieces]
  | cons c s =>
      simp only [pieces]
      split
      · simp
      · split <;> simp

theorem not_sep_of_mem_pieces (sep : α → Bool) (s p : List α) (hp : p ∈ pieces sep s) :
    ∀ c ∈ p, sep c = false := by
  induction s generalizing p with
  | nil =>
      simp only [pieces, List.mem_singleton] at hp
      simp [hp]
  | cons c s ih =>
      simp only [pieces] at hp
      split at hp
      · rcases List.mem_cons.mp hp with rfl | hp
        · simp
        · exact ih p hp
      · rename_i hc
        have hc : sep c = false := by simpa using hc
        split at hp
        · simp only [List.mem_singleton] at hp
          simp [hp, hc]
        · rename_i q qs heq
          rcases List.mem_cons.mp hp with rfl | hp
          · intro x hx
            rcases List.mem_cons.mp hx with rfl | hx
            · exact hc
            · exact ih q (by simp [heq]) x hx
          · exact ih p (by simp [heq, hp])

theorem not_sep_of_mem_tokens (sep : α → Bool) (s p : List α) (hp : p ∈ tokens sep s) :
    ∀ c ∈ p, sep c = false :=
  not_sep_of_mem_pieces sep s p (List.mem_filter.mp hp).1

end Text

end DocQuery
