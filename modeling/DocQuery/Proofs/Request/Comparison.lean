import DocQuery.Proofs.Calendar.Characters
import DocQuery.Proofs.Number.Characters
import DocQuery.Proofs.Request.Marking
import DocQuery.Proofs.Text.FormEncoding

/-!
# Comparisons that Texts Ask for

A text asks for a comparison exactly if what is before its first comma, without
the blanks around it, is the word for one. The marks that are put into the text
on the way do not move the comma, and a dollar sign that was there before stays
next to the one that is added, so nothing but the word itself becomes an
operator.

The bound is not always what stands behind the comma. A word for a comparison in
it is marked too, and the mark is not taken away again. A text with a dollar sign
is neither a number nor a date, so such a bound is the marked text. All other
bounds are what they would be without the marking.

Reading works on the marked text throughout: it cuts it at the first comma,
trims both sides and looks its head up among the operators. The lemmas here take
these steps back to the text as it was sent. Marking keeps every character but
the dollar sign, so the comma is the same (`mem_mark_iff`), it can change places
with trimming, and a text is marked to an operator only if it is the word for it
(`mark_eq_key_iff`).

Whether the marks in a bound matter is decided by a single observation. A dollar
sign stands in no integer, no number and no date, so a bound that got a mark has
become a text, and as a text it differs from what was sent.

## Theorems

* `Coercion.number_eq_none_of_mem`: A character that stands in no number.
* `Coercion.operand_of_mem_dollar`: A dollar sign stands in texts only.
* `Coercion.eq_of_operand_eq_text`: A text stands for no other text.
* `Comparator.ofKey?_trim_mark_iff`: What becomes an operator.
* `Comparison.read?_eq_some_iff`: The comparison that a text asks for.
* `Comparison.read?_recognizes`: Which texts ask for one.
* `Comparison.read?_word`, `read?_word_append`: The bound of a comparison.
* `Comparison.read?_marks_bound`: A bound that is not what stands in the text.
-/

namespace DocQuery

namespace Coercion

open Number

/-- A text with a character that stands in no number is no number. -/
theorem number_eq_none_of_mem (s : List Char) (c : Char) (hc : isNumberCharacter c = false)
    (h : c ∈ s) : integer? s = none ∧ real? s = none := by
  constructor
  · rw [integer?, Option.map_eq_none_iff]
    refine Option.eq_none_iff_forall_ne_some.mpr fun n hn => ?_
    rcases Option.bind_eq_some_iff.mp hn with ⟨m, hm, -⟩
    rw [forall_isNumberCharacter_of_readInt? s m hm c h] at hc
    cases hc
  · rw [real?, Option.map_eq_none_iff]
    refine Option.eq_none_iff_forall_ne_some.mpr fun x hx => ?_
    rcases Option.map_eq_some_iff.mp (Option.filter_eq_some_iff.mp hx).1 with ⟨y, hy, -⟩
    rw [Decimal.forall_isNumberCharacter_of_read? s y hy c h] at hc
    cases hc

/-- A dollar sign stands in texts only. -/
theorem operand_of_mem_dollar (s : List Char) (h : '$' ∈ s) : operand s = text s := by
  rcases number_eq_none_of_mem s '$' (by decide) h with ⟨hinteger, hreal⟩
  -- A date has a list of characters of its own.
  have hdate : date? s = none := by
    rw [date?, Option.map_eq_none_iff]
    refine Option.eq_none_iff_forall_ne_some.mpr fun n hn => ?_
    exact absurd (Calendar.forall_isDateCharacter_of_instant? s n hn '$' h) (by decide)
  rw [operand, hinteger, hdate, hreal]
  rfl

/-- What stands for a text is this text, as a reading gives an integer, an instant
    or a number. -/
theorem eq_of_operand_eq_text (s t : List Char) (h : operand s = text t) : s = t := by
  have hinteger : integer? s ≠ some (text t) := by
    intro hs
    rcases Option.map_eq_some_iff.mp hs with ⟨n, -, hn⟩
    exact Value.noConfusion hn
  have hdate : date? s ≠ some (text t) := by
    intro hs
    rcases Option.map_eq_some_iff.mp hs with ⟨n, -, hn⟩
    exact Value.noConfusion hn
  have hreal : real? s ≠ some (text t) := by
    intro hs
    rcases Option.map_eq_some_iff.mp hs with ⟨x, -, hx⟩
    exact Value.noConfusion hx
  -- Only the last choice gives a text, and it gives the text itself.
  rw [operand, Option.getD_eq_iff] at h
  simp only [Option.orElse_eq_orElse, Option.orElse_eq_or, Option.or_eq_some_iff, hinteger, hdate,
    hreal, false_or, and_false] at h
  have hstring := congrArg String.toList (Value.string.inj h.2)
  rwa [String.toList_ofList, String.toList_ofList] at hstring

end Coercion

namespace Comparator

theorem filter_of_notMem_dollar (s : List Char) (h : '$' ∉ s) : s.filter (· ≠ '$') = s := by
  refine List.filter_eq_self.mpr fun c hc => decide_eq_true ?_
  rintro rfl
  exact h hc

/-- Without its marks a text is the same, so a text that was marked has a dollar
    sign that was not there before. -/
theorem dollar_mem_mark (s : List Char) (h : mark s ≠ s) : '$' ∈ mark s := by
  by_contra hmem
  have hs : '$' ∉ s := fun hc => hmem ((sublist_mark s).mem hc)
  exact h (by rw [← filter_of_notMem_dollar _ hmem, filter_mark, filter_of_notMem_dollar s hs])

theorem mark_word (c : Comparator) : mark c.word.toList = c.key.toList := by
  cases c with
  | _ => decide

theorem mark_key (c : Comparator) : mark c.key.toList = '$' :: c.key.toList := by
  cases c with
  | _ => decide

theorem not_mem_dollar_word (c : Comparator) : '$' ∉ c.word.toList := by
  cases c with
  | _ => decide

/-- A marked text is the operator of a comparison exactly if the text is the word
    for it. -/
theorem mark_eq_key_iff (s : List Char) (c : Comparator) :
    mark s = c.key.toList ↔ s = c.word.toList := by
  constructor
  · intro h
    -- Without dollar signs the text is the word.
    have hfilter : s.filter (· ≠ '$') = c.word.toList := by
      rw [← filter_mark, h, toList_key, List.filter_cons_of_neg (by decide),
        filter_of_notMem_dollar _ c.not_mem_dollar_word]
    by_cases hmem : '$' ∈ s
    · -- The dollar sign was there before, so nothing was added, but the word is marked again.
      have hlength : (mark s).length ≤ s.length := by
        rw [h, toList_key, List.length_cons, ← hfilter]
        exact List.length_filter_lt_length_iff_exists.mpr ⟨'$', hmem, by decide⟩
      have hkey : s = c.key.toList := ((sublist_mark s).eq_of_length_le hlength).trans h
      rw [hkey, mark_key] at h
      exact absurd (congrArg List.length h) (by simp)
    · rw [← hfilter, filter_of_notMem_dollar s hmem]
  · rintro rfl
    exact c.mark_word

/-- What is before the comma becomes an operator exactly if it is the word for a
    comparison, with blanks around it. -/
theorem ofKey?_trim_mark_iff (s : List Char) (c : Comparator) :
    ofKey? (String.ofList (Text.trim (mark s))) = some c ↔ Text.trim s = c.word.toList := by
  rw [ofKey?_eq_some_iff, trim_mark, ← mark_eq_key_iff, ← String.toList_inj, String.toList_ofList,
    eq_comm]

/-- Apart from dollar signs, a marked text has the characters it had. -/
theorem mem_mark_iff (s : List Char) (x : Char) (hx : x ≠ '$') : x ∈ mark s ↔ x ∈ s := by
  have hfilter : ∀ t : List Char, x ∈ t.filter (· ≠ '$') ↔ x ∈ t := by
    intro t
    rw [List.mem_filter]
    exact and_iff_left (decide_eq_true hx)
  rw [← hfilter, filter_mark, hfilter]

end Comparator

namespace Comparison

/-- Marking a text does not move its first comma. -/
theorem cut?_mark_append (head operand : List Char) (h : ',' ∉ head) :
    Text.cut? (· == ',') (Comparator.mark (head ++ ',' :: operand)) =
      some (Comparator.mark head, Comparator.mark operand) := by
  rw [Comparator.mark_append head operand ',' (by decide)]
  refine Text.cut?_append _ _ _ _ rfl fun x hx => beq_eq_false_iff_ne.mpr ?_
  rintro rfl
  exact h ((Comparator.mem_mark_iff head ',' (by decide)).mp hx)

theorem read?_append (head operand : List Char) (h : ',' ∉ head) :
    read? (head ++ ',' :: operand) =
      (Comparator.ofKey? (String.ofList (Text.trim (Comparator.mark head)))).map fun c =>
        ⟨c, Coercion.operand (Comparator.mark (Text.trim operand))⟩ := by
  rw [read?, cut?_mark_append head operand h, ← Comparator.trim_mark operand]
  rcases hkey : Comparator.ofKey? (String.ofList (Text.trim (Comparator.mark head))) with _ | c
  · simp [hkey]
  · simp [hkey]

theorem read?_of_not_mem (s : List Char) (h : ',' ∉ s) : read? s = none := by
  have hcut : Text.cut? (· == ',') (Comparator.mark s) = none := by
    refine (Text.cut?_eq_none_iff _ _).mpr fun x hx => beq_eq_false_iff_ne.mpr ?_
    rintro rfl
    exact h ((Comparator.mem_mark_iff s ',' (by decide)).mp hx)
  rw [read?, hcut]
  rfl

/-- The comparison that a text asks for: its word is before the first comma, and
    its bound is what is behind it, with the words in it marked. -/
theorem read?_eq_some_iff (s : List Char) (x : Comparison) :
    read? s = some x ↔ ∃ head operand, s = head ++ ',' :: operand ∧ ',' ∉ head ∧
      Text.trim head = x.comparator.word.toList ∧
      x.bound = Coercion.operand (Comparator.mark (Text.trim operand)) := by
  constructor
  · intro h
    -- The first comma cuts the text as it was sent; the marked one is cut at the same
    -- place.
    by_cases hmem : ',' ∈ s
    · rcases hcut : Text.cut? (· == ',') s with _ | ⟨head, operand⟩
      · exact absurd (beq_self_eq_true ',')
          (Bool.eq_false_iff.mp ((Text.cut?_eq_none_iff _ s).mp hcut ',' hmem))
      · rcases Text.append_of_cut? _ s head operand hcut with ⟨c, hc, rfl, hhead⟩
        rw [beq_iff_eq] at hc
        subst hc
        have hnot : ',' ∉ head := fun hx => absurd (hhead ',' hx) (by decide)
        rw [read?_append head operand hnot] at h
        rcases Option.map_eq_some_iff.mp h with ⟨c, hc, rfl⟩
        exact ⟨head, operand, rfl, hnot, (Comparator.ofKey?_trim_mark_iff head c).mp hc, rfl⟩
    · rw [read?_of_not_mem s hmem] at h
      cases h
  · rintro ⟨head, operand, rfl, hnot, hhead, hbound⟩
    rw [read?_append head operand hnot,
      (Comparator.ofKey?_trim_mark_iff head x.comparator).mpr hhead, Option.map_some, ← hbound]

/-- The bound behind a word for a comparison and a comma. -/
theorem read?_word (c : Comparator) (s : List Char) :
    read? (c.word.toList ++ ',' :: s) =
      some ⟨c, Coercion.operand (Comparator.mark (Text.trim s))⟩ := by
  have hword : ',' ∉ c.word.toList ∧ Text.trim c.word.toList = c.word.toList := by
    cases c with
    | _ => decide
  exact (read?_eq_some_iff _ ⟨c, _⟩).mpr ⟨c.word.toList, s, rfl, hword.1, hword.2, rfl⟩

/-- Texts that ask for a comparison are those that have a comma and before the
    first one, but for blanks, the word for it. What they ask for is a document of
    its operator alone, which is the word behind a dollar sign. -/
theorem read?_recognizes (s : List Char) :
    ((read? s).isSome = true ↔ ∃ head operand, s = head ++ ',' :: operand ∧ ',' ∉ head ∧
      ∃ c : Comparator, Text.trim head = c.word.toList) ∧
    ∀ x, read? s = some x → ∃ head operand, s = head ++ ',' :: operand ∧ ',' ∉ head ∧
      x.document.keys = [String.ofList ('$' :: Text.trim head)] := by
  constructor
  · rw [Option.isSome_iff_exists]
    constructor
    · rintro ⟨x, hx⟩
      rcases (read?_eq_some_iff s x).mp hx with ⟨head, operand, hs, hnot, hhead, -⟩
      exact ⟨head, operand, hs, hnot, x.comparator, hhead⟩
    · rintro ⟨head, operand, hs, hnot, c, hhead⟩
      exact ⟨⟨c, _⟩, (read?_eq_some_iff s _).mpr ⟨head, operand, hs, hnot, hhead, rfl⟩⟩
  · intro x hx
    rcases (read?_eq_some_iff s x).mp hx with ⟨head, operand, hs, hnot, hhead, -⟩
    refine ⟨head, operand, hs, hnot, ?_⟩
    rw [hhead, ← Comparator.toList_key, String.ofList_toList]
    rfl

-- A dollar sign that is there already makes the head something else.
example : read? "$gt,1".toList = none := by rfl

example : read? "100,gte".toList = none := by rfl

/-- A word for a comparison, a comma and anything else ask for this comparison.
    The bound is what the text behind the comma stands for exactly if no word for
    a comparison stands alone in it. Otherwise it is a text that differs from
    what stands there by the marks. -/
theorem read?_word_append (c : Comparator) (v : List Char) :
    ∃ bound, read? (c.word.toList ++ ',' :: v) = some ⟨c, bound⟩ ∧
      (bound = Coercion.operand (Text.trim v) ↔ ∀ d : Comparator, ¬d.StandsIn (Text.trim v)) ∧
      ((∃ d : Comparator, d.StandsIn (Text.trim v)) →
        bound = Coercion.text (Comparator.mark (Text.trim v))) := by
  have hread := read?_word c v
  -- Nothing else is needed of the trimmed text.
  generalize Text.trim v = t at hread ⊢
  have hmarked : Comparator.mark t ≠ t →
      Coercion.operand (Comparator.mark t) = Coercion.text (Comparator.mark t) :=
    fun hne => Coercion.operand_of_mem_dollar _ (Comparator.dollar_mem_mark t hne)
  refine ⟨_, hread, ?_, ?_⟩
  · rw [← Comparator.mark_eq_self_iff]
    constructor
    · intro hbound
      -- A text that was marked stands for itself, and so it would be as it was before.
      by_contra hne
      rw [hmarked hne] at hbound
      exact hne (Coercion.eq_of_operand_eq_text t _ hbound.symm).symm
    · intro hself
      rw [hself]
  · rintro ⟨d, hd⟩
    exact hmarked (Comparator.mark_ne_self_of_standsIn d t hd)

/-- A word for a comparison as the bound of another one gets a dollar sign that
    is not in the text. -/
theorem read?_marks_bound :
    read? ("gt".toList ++ ',' :: "lt".toList) = some ⟨.gt, .string "$lt"⟩ ∧
      read? ("gt".toList ++ ',' :: "lt".toList) ≠
        some ⟨.gt, Coercion.operand (Text.trim "lt".toList)⟩ := by
  have hread : read? ("gt".toList ++ ',' :: "lt".toList) = some ⟨.gt, .string "$lt"⟩ := by rfl
  have hbound : Coercion.operand (Text.trim "lt".toList) = .string "lt" := by rfl
  refine ⟨hread, fun h => ?_⟩
  rw [hread, hbound] at h
  have hstring : "$lt" = "lt" := Value.string.inj (congrArg bound (Option.some.inj h))
  exact absurd hstring (by decide)

end Comparison

end DocQuery
