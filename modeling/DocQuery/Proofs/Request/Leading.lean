import DocQuery.Proofs.Request.Filters
import DocQuery.Proofs.Request.Identifier
import DocQuery.Proofs.Request.Query

/-!
# Leading Numbers

The page and the limit of a request are read from the front of a text. Blanks and
at most one plus sign may stand there, then comes a run of digits of any length,
and what follows does not count.

The number of such a text is taken as it is up to the largest number of 64 bits.
A larger one is not cut off there: the parameter is then as good as absent, in the
same way as if it were zero or no number at all.

The relation says what leads a text without saying how it is found. That it is
found follows in two halves: the parts that reading takes away fit together to
the whole text (`leadingNumber_of_ne_nil`), and whatever parts a text is put
together from, they are the ones that reading takes away
(`eq_of_leadingNumber`). So a text is led by one number at most.

## Main definitions

* `Request.LeadingNumber`: A number at the front of a text.

## Theorems

* `Request.positive?_eq_some_iff`: Which texts are read, and as what.
* `Request.positive?_eq_none_of_lt`: Numbers that are too large.
* `ListRequest.ofParams_without`: A page or a limit that is not read.
-/

namespace DocQuery

open Number

namespace Request

/-- The number at the front of a text: blanks, perhaps a plus sign, and a run of
    digits that goes on as far as there are digits. -/
inductive LeadingNumber : List Char → Nat → Prop
  | digits (blanks sign digits rest : List Char) (hblanks : ∀ c ∈ blanks, Text.isBlank c = true)
      (hsign : sign = [] ∨ sign = ['+']) (hne : digits ≠ [])
      (hdigits : ∀ c ∈ digits, isDigit c = true) (hrest : ∀ c ∈ rest.head?, isDigit c = false) :
      LeadingNumber (blanks ++ (sign ++ (digits ++ rest))) (ofDigits digits)

/-- The digits at the front of a text, after blanks and a plus sign. -/
def leadingDigits (s : List Char) : List Char :=
  (skipPlus (Text.trimStart s)).takeWhile isDigit

/-- A number is read if its digits are within the bounds; a text without digits
    counts as zero. -/
theorem positive?_eq (s : List Char) :
    positive? s =
      if 0 < ofDigits (leadingDigits s) ∧ ofDigits (leadingDigits s) ≤ maxCount then
        some (ofDigits (leadingDigits s))
      else none :=
  rfl

theorem leadingNumber_of_isDigit (digits : List Char) (hne : digits ≠ [])
    (h : ∀ c ∈ digits, isDigit c = true) : LeadingNumber digits (ofDigits digits) := by
  have hnumber := LeadingNumber.digits [] [] digits [] nofun (Or.inl rfl) hne h nofun
  rw [List.append_nil] at hnumber
  exact hnumber

/-- A plus sign is skipped once, and nothing else is. -/
theorem exists_sign (s : List Char) :
    ∃ sign, (sign = [] ∨ sign = ['+']) ∧ s = sign ++ skipPlus s := by
  unfold skipPlus
  split
  · exact ⟨['+'], Or.inr rfl, rfl⟩
  · exact ⟨[], Or.inl rfl, rfl⟩

theorem skipPlus_sign (sign s : List Char) (hsign : sign = [] ∨ sign = ['+'])
    (hs : s.head? ≠ some '+') : skipPlus (sign ++ s) = s := by
  rcases hsign with rfl | rfl
  · rw [List.nil_append]
    unfold skipPlus
    split
    · exact absurd rfl hs
    · rfl
  · rfl

/-- The digits of a text lead it, if there are any. -/
theorem leadingNumber_of_ne_nil (s : List Char) (h : leadingDigits s ≠ []) :
    LeadingNumber s (ofDigits (leadingDigits s)) := by
  rcases exists_sign (Text.trimStart s) with ⟨sign, hsign, htrim⟩
  -- Blanks, the sign, the digits and the rest are the whole text.
  have hs : s = s.takeWhile Text.isBlank ++ (sign ++ (leadingDigits s ++
      (skipPlus (Text.trimStart s)).dropWhile isDigit)) := by
    rw [leadingDigits, List.takeWhile_append_dropWhile, ← htrim]
    exact List.takeWhile_append_dropWhile.symm
  have hnumber := LeadingNumber.digits (s.takeWhile Text.isBlank) sign (leadingDigits s)
    ((skipPlus (Text.trimStart s)).dropWhile isDigit) (fun c hc => List.mem_takeWhile_imp hc)
    hsign h (fun c hc => List.mem_takeWhile_imp hc) fun c hc => by
      have hnot := List.head?_dropWhile_not isDigit (skipPlus (Text.trimStart s))
      rw [Option.mem_def.mp hc] at hnot
      exact hnot
  rw [← hs] at hnumber
  exact hnumber

/-- Nothing else leads a text than its digits. -/
theorem eq_of_leadingNumber (s : List Char) (n : Nat) (h : LeadingNumber s n) :
    n = ofDigits (leadingDigits s) := by
  cases h with
  | digits blanks sign digits rest hblanks hsign hne hdigits hrest =>
      rcases digits with _ | ⟨d, digits⟩
      · exact absurd rfl hne
      have hd : isDigit d = true := hdigits d List.mem_cons_self
      -- Neither a plus sign nor a digit is blank, so the blanks end there.
      have hafter : Text.trimStart (sign ++ (d :: digits ++ rest)) =
          sign ++ (d :: digits ++ rest) := by
        rcases hsign with rfl | rfl
        · exact Text.trimStart_of_not_isBlank d _ (not_isBlank_of_isDigit d hd)
        · exact Text.trimStart_of_not_isBlank '+' _ (by decide)
      have htrim : Text.trimStart (blanks ++ (sign ++ (d :: digits ++ rest))) =
          sign ++ (d :: digits ++ rest) := by
        rw [Text.trimStart, List.dropWhile_append_of_pos hblanks]
        exact hafter
      have hplus : (d :: digits ++ rest).head? ≠ some '+' := by
        intro heq
        rw [Option.some.inj heq] at hd
        exact absurd hd (by decide)
      -- The digits end where the rest begins, as this starts with something else.
      have hstop : rest.takeWhile isDigit = [] := by
        rcases rest with _ | ⟨c, rest⟩
        · rfl
        · exact List.takeWhile_cons_of_neg (by rw [hrest c rfl]; exact Bool.false_ne_true)
      rw [leadingDigits, htrim, skipPlus_sign sign _ hsign hplus,
        List.takeWhile_append_of_pos hdigits, hstop, List.append_nil]

/-- The positive numbers of 64 bits are read, and nothing else is. -/
theorem positive?_eq_some_iff (s : List Char) (n : Nat) :
    positive? s = some n ↔ 0 < n ∧ n ≤ maxCount ∧ LeadingNumber s n := by
  rw [positive?_eq]
  constructor
  · intro h
    split at h
    · rename_i hrange
      rw [← Option.some.inj h]
      refine ⟨hrange.1, hrange.2, leadingNumber_of_ne_nil s ?_⟩
      -- Without digits the number would be zero, which is out of the bounds.
      intro hnil
      rw [hnil] at hrange
      exact absurd hrange.1 (by decide)
    · cases h
  · rintro ⟨hpos, hmax, hnumber⟩
    rw [← eq_of_leadingNumber s n hnumber, if_pos ⟨hpos, hmax⟩]

/-- A number of more than 64 bits is not read. -/
theorem positive?_eq_none_of_lt (s : List Char) (n : Nat) (h : LeadingNumber s n)
    (hmax : maxCount < n) : positive? s = none := by
  rw [positive?_eq, ← eq_of_leadingNumber s n h, if_neg (by omega)]

theorem filters_without (params : Params) (name : String) (h : isFilterName name = false) :
    filters (params.without name) = filters params := by
  have hfilter : (params.without name).filter (fun p => isFilterName p.1) =
      params.filter fun p => isFilterName p.1 := by
    unfold Params.without
    rw [List.filter_filter]
    refine List.filter_congr fun p _ => ?_
    by_cases hp : p.1 = name
    · simp [hp, h]
    · simp [hp]
  unfold filters
  rw [hfilter]

end Request

theorem Params.get?_without_self (params : Params) (name : String) :
    (params.without name).get? name = none := by
  rw [get?, values?_eq_none _ name fun entry hentry => ?_, Option.map_none]
  simpa using (List.mem_filter.mp hentry).2

theorem Params.get?_without_of_ne (params : Params) (name other : String) (h : other ≠ name) :
    (params.without name).get? other = params.get? other := by
  rw [get?, values?_without params name other h]
  rfl

/-- A page or a limit that is not read is as good as absent. -/
theorem ListRequest.ofParams_without (params : Params) (name : String)
    (hname : name = "page" ∨ name = "limit")
    (hnone : (params.get? name).bind Request.positive? = none) :
    ofParams (params.without name) = ofParams params := by
  have hother := params.get?_without_of_ne name
  -- Both counts are read as before: one is absent either way, and the other one is not
  -- touched.
  have hnumber : ∀ k, ((params.without name).get? k).bind Request.positive? =
      (params.get? k).bind Request.positive? := by
    intro k
    by_cases hk : k = name
    · rw [hk, params.get?_without_self name, hnone, Option.bind_none]
    · rw [hother k hk]
  have hnames : Request.isFilterName name = false ∧ "fields" ≠ name ∧ "sort" ≠ name ∧
      "search" ≠ name ∧ "populate" ≠ name := by
    rcases hname with rfl | rfl
    · decide
    · decide
  rcases hnames with ⟨hfilter, hfields, hsort, hsearch, hpopulate⟩
  unfold ofParams Request.fields Request.sort Request.listed
  rw [Request.filters_without params name hfilter, hnumber "page", hnumber "limit",
    hother _ hfields, hother _ hsort, hother _ hsearch, hother _ hpopulate]

end DocQuery
