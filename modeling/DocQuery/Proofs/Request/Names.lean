import DocQuery.Proofs.Text.FormEncoding
import DocQuery.Request.Basic
import Mathlib.Data.List.Nodup

/-!
# Names in Requests

The relations that a request names. A request for a list keeps each name once.
One for a single document keeps them as a text with spaces between them, in
which no name is lost, torn apart or dropped, not even one that comes twice.

Two readings are compared here, and they use different sets of separators.
Commas and blanks separate the names in a parameter, and blanks alone those in
the text that a request for a single document keeps. The text is made of names
that went through the first reading, so no name has a blank in it, and a name
with a comma cannot occur either.

## Theorems

* `filter_eraseDups`, `filterMap_eraseDups`: What becomes of elements that are
  kept once.
* `eraseDups_append_congr`: It does not matter how often elements are added.
* `Text.tokens_intercalate`: Tokens with separators between them.
* `SingleRequest.relations_ofParams`: The names in a request for a single
  document.
* `ListRequest.populate_ofParams`: The names in a request for a list are these,
  each once.
-/

namespace DocQuery

section Distinct

variable {α β : Type} [DecidableEq α]

/-- An induction along the elements that are kept. With the first one all that
    are equal to it are done, and what remains is shorter but no tail of the
    list. -/
@[elab_as_elim]
theorem eraseDups_induction {motive : List α → Prop} (nil : motive [])
    (cons : ∀ x xs, motive (xs.filter fun y => !y == x) → motive (x :: xs)) (xs : List α) :
    motive xs := by
  induction hn : xs.length using Nat.strongRecOn generalizing xs with
  | ind n ih =>
    rcases xs with _ | ⟨x, xs⟩
    · exact nil
    have hlt : (xs.filter fun y => !y == x).length < n := by
      rw [← hn]
      exact Nat.lt_succ_of_le (List.length_filter_le _ _)
    exact cons x xs (ih _ hlt _ rfl)

/-- It does not matter whether elements are selected before or after each is
    kept once. -/
theorem filter_eraseDups (p : α → Bool) (xs : List α) :
    xs.eraseDups.filter p = (xs.filter p).eraseDups := by
  induction xs using eraseDups_induction with
  | nil => rfl
  | cons x xs ih =>
    rw [List.eraseDups_cons, List.filter_cons, List.filter_cons, ih, List.filter_comm]
    by_cases hx : p x = true
    · rw [if_pos hx, if_pos hx, List.eraseDups_cons]
    · -- The first element is not selected, so neither are those equal to it.
      have hother : (xs.filter p).filter (fun y => !y == x) = xs.filter p := by
        rw [List.filter_eq_self]
        intro y hy
        have hne : y ≠ x := by
          rintro rfl
          exact hx (List.mem_filter.mp hy).2
        simpa using hne
      rw [if_neg hx, if_neg hx, hother]

/-- To keep each element once, it does not matter how often it is added. -/
theorem eraseDups_append_congr (xs ys zs : List α) (h : ys.eraseDups = zs.eraseDups) :
    (xs ++ ys).eraseDups = (xs ++ zs).eraseDups := by
  have hremove : ∀ ys : List α, (ys.removeAll xs).eraseDups =
      ys.eraseDups.filter fun y => !xs.elem y := by
    intro ys
    rw [filter_eraseDups]
    rfl
  rw [List.eraseDups_append, List.eraseDups_append, hremove, hremove, h]

theorem eraseDups_eq_singleton (xs : List α) (x : α) (hx : x ∈ xs) (h : ∀ y ∈ xs, y = x) :
    xs.eraseDups = [x] := by
  rcases xs with _ | ⟨y, xs⟩
  · cases hx
  · have hnone : (xs.filter fun z => !z == y) = [] := by
      rw [List.filter_eq_nil_iff]
      intro z hz
      rw [h z (List.mem_cons_of_mem y hz), h y List.mem_cons_self]
      simp
    rw [List.eraseDups_cons, hnone, h y List.mem_cons_self]
    rfl

end Distinct

/-- Tokens with separators between them are found again. -/
theorem Text.tokens_intercalate {α : Type} (sep : α → Bool) (c : α) (hc : sep c = true)
    (parts : List (List α)) (h : ∀ part ∈ parts, part ≠ [] ∧ ∀ x ∈ part, sep x = false) :
    tokens sep ([c].intercalate parts) = parts := by
  induction parts with
  | nil => rfl
  | cons part parts ih =>
      rw [List.forall_mem_cons] at h
      rcases parts with _ | ⟨next, parts⟩
      · rw [List.intercalate_singleton]
        exact tokens_of_not_sep sep part h.1.1 h.1.2
      · rw [List.intercalate_cons_cons, List.append_assoc, List.singleton_append,
          tokens_append sep _ _ c hc, tokens_of_not_sep sep part h.1.1 h.1.2, ih h.2]
        rfl

/-- No name is lost, torn apart or dropped in a request for a single document. -/
theorem SingleRequest.relations_ofParams (params : Params) :
    (SingleRequest.ofParams params).relations =
      (Request.listed params "populate").map String.ofList := by
  -- What separates names in the second reading separates them in the first one, too.
  have hnames : ∀ part ∈ Request.listed params "populate",
      part ≠ [] ∧ ∀ c ∈ part, Text.isBlank c = false := by
    intro part hpart
    have hsep := Text.not_sep_of_mem_tokens _ _ part hpart
    refine ⟨?_, fun c hc => (Bool.or_eq_false_iff.mp (hsep c hc)).2⟩
    rintro rfl
    exact absurd (List.mem_filter.mp hpart).2 (by decide)
  rw [relations, ofParams, Text.tokens_intercalate _ ' ' (by decide) _ hnames]

/-- A request for a list names the same relations as one for a single document,
    each once. -/
theorem ListRequest.populate_ofParams (params : Params) :
    (ListRequest.ofParams params).populate =
      (SingleRequest.ofParams params).relations.eraseDups := by
  rw [SingleRequest.relations_ofParams]
  rfl

end DocQuery
