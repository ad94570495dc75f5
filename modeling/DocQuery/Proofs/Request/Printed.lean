import DocQuery.Proofs.Calendar.Rendering
import DocQuery.Proofs.Request.Comparison
import DocQuery.Proofs.Request.Readings
import DocQuery.Proofs.Value.Identifier
import DocQuery.Value.Extended

/-!
# Printed Values as Bounds

A client may take a number or an instant from an answer and ask for what is beyond
it. The bound that it asks for is the value that was printed: the two texts stand
for nothing else.

Between a comma and the reading of the bound a text is marked and trimmed. Neither
changes a printed one. It has no blanks, and no word for a comparison is in it,
since the only letters of an instant are T and Z.

The two proofs differ in what has to be ruled out. A printed integer is read
first of all, so nothing comes before it. A printed instant is read after the
integers, and that it is none follows from what tells numbers and dates apart.
As a filter of its own an instant is not read back but stays a text, which is
why the result for instants is about comparisons only.

## Main definitions

* `Number.isPrinted`: May a character stand in a printed number or instant?

## Theorems

* `all_isPrinted_text`, `all_isPrinted_render?`: The characters of what is
  printed.
* `Value.render?_of_plain`: The instants that are printed as texts.
* `Coercion.operand_text`, `Coercion.operand_render?`: The bounds.
* `Request.filterValue_word_append`: Comparisons with a printed text.
* `Request.filterValue_printed`: What is printed may be sent back.
-/

namespace DocQuery

namespace Number

/-- May a character stand in a printed number or instant? -/
def isPrinted (c : Char) : Bool :=
  isDigit c || ['-', ':', '.', 'T', 'Z'].contains c

theorem all_isPrinted_of_isDigit (s : List Char) (h : s.all isDigit = true) :
    s.all isPrinted = true := by
  refine List.all_eq_true.mpr fun c hc => ?_
  rw [isPrinted, List.all_eq_true.mp h c hc, Bool.true_or]

theorem all_isPrinted_text (n : Int) : (text n).all isPrinted = true := by
  have hdigits := all_isPrinted_of_isDigit _ (all_isDigit_digits n.natAbs)
  unfold text
  split
  · rw [List.all_cons, hdigits]
    rfl
  · exact hdigits

theorem all_isPrinted_padded (count n : Nat) : (padded count n).all isPrinted = true :=
  all_isPrinted_of_isDigit _ (all_isDigit_padded count n)

theorem not_isBlank_of_isPrinted (c : Char) (h : isPrinted c = true) : Text.isBlank c = false := by
  rw [isPrinted, Bool.or_eq_true] at h
  -- The digits are a range of characters, and the marks are tried one by one.
  rcases h with hdigit | hmark
  · exact not_isBlank_of_isDigit c hdigit
  · have hmarks : (['-', ':', '.', 'T', 'Z'].all fun d => !Text.isBlank d) = true := by decide
    rw [← Bool.not_eq_true']
    exact List.all_eq_true.mp hmarks c (List.contains_iff_mem.mp hmark)

end Number

namespace Calendar

open Number

theorem all_isPrinted_renderFraction (millis : Nat) (h : millis < 1000) :
    (renderFraction millis).all isPrinted = true := by
  rcases renderFraction_cases millis h with ⟨-, hrender⟩ | ⟨count, n, -, -, -, -, hrender⟩
  · rw [hrender]
    rfl
  · rw [hrender, List.all_cons, all_isPrinted_padded]
    rfl

theorem all_isPrinted_render? (n : Int) (s : List Char) (h : render? n = some s) :
    s.all isPrinted = true := by
  have hmarks : isPrinted '-' = true ∧ isPrinted 'T' = true ∧ isPrinted ':' = true ∧
      isPrinted 'Z' = true := by
    decide
  simp only [render?] at h
  split at h
  · cases h
  · cases h
    have hfraction := all_isPrinted_renderFraction ((n % 86400000).toNat % 1000)
      (Nat.mod_lt _ (by decide))
    simp only [List.all_append, List.all_cons, List.all_nil, all_isPrinted_padded, hfraction,
      hmarks, Bool.and_self]

end Calendar

open Number

/-- A printed text has no blanks to take away. -/
theorem Text.trim_of_isPrinted (s : List Char) (h : s.all isPrinted = true) : trim s = s := by
  have hblank : ∀ c ∈ s, isBlank c = false :=
    fun c hc => not_isBlank_of_isPrinted c (List.all_eq_true.mp h c hc)
  have hstart : trimStart s = s := by
    cases s with
    | nil => rfl
    | cons c s => exact trimStart_of_not_isBlank c s (hblank c (List.mem_cons_self ..))
  rw [trim, hstart]
  rcases hlast : s.getLast? with _ | c
  · rw [List.getLast?_eq_none_iff.mp hlast]
    rfl
  · exact Comparator.trimEnd_of_getLast? s c hlast (hblank c (List.mem_of_getLast? hlast))

/-- The words for comparisons are made of other letters. -/
theorem Comparator.not_standsIn_of_isPrinted (c : Comparator) (s : List Char)
    (h : s.all isPrinted = true) : ¬ c.StandsIn s := by
  rintro ⟨before, after, rfl, -, -⟩
  have hword : c.word.toList.all isPrinted = false := by
    cases c with
    | _ => decide
  rw [List.all_append, List.all_append, hword] at h
  simp at h

namespace Value

/-- An instant is printed as its text if it has one. -/
theorem render?_of_plain (t : Int64) (s : String) (h : (Value.dateTime t).plain = .string s) :
    Calendar.render? t.toInt = some s.toList := by
  have hplain : plainDate t = .string s := h
  unfold plainDate at hplain
  rcases hrender : Calendar.render? t.toInt with _ | printed
  · rw [hrender] at hplain
    cases hplain
  · rw [hrender] at hplain
    rw [← Json.string.inj hplain, String.toList_ofList]

theorem render_plain_int64 (n : Int64) : (Value.int64 n).plain.render = Number.text n.toInt := rfl

end Value

namespace Coercion

/-- A text with a comma is at most a comparison. -/
theorem scalar?_eq_none_of_mem_comma (s : List Char) (h : ',' ∈ s) : scalar? s = none := by
  -- None of the readings takes a comma: names, numbers and identifiers have none.
  have htruth : truth? s = none := by
    unfold truth?
    rw [if_neg, if_neg]
    · rintro rfl
      exact absurd h (by decide)
    · rintro rfl
      exact absurd h (by decide)
  rcases number_eq_none_of_mem s ',' (by decide) h with ⟨hinteger, hreal⟩
  have hid : objectId? s = none := by
    rw [objectId?, Option.map_eq_none_iff]
    refine Option.eq_none_iff_forall_ne_some.mpr fun id hread => ?_
    have hhex := (ObjectId.length_and_isDigit_of_read?_eq_some s id hread).2
    exact absurd (List.all_eq_true.mp hhex ',' h) (by decide)
  rw [scalar?, number?, htruth, hinteger, hreal, hid]
  rfl

/-- The integers that are printed are in range. -/
theorem integer?_text (n : Int64) : integer? (Number.text n.toInt) = some (.int64 n) := by
  have hrange : Form.toInt64? n.toInt = some n := by
    rw [Form.toInt64?, if_pos ⟨n.minValue_le_toInt, n.toInt_le⟩, Int64.ofInt_toInt]
  rw [integer?, readInt?_text, Option.bind_some, hrange]
  rfl

/-- The bound of a printed integer. -/
theorem operand_text (n : Int64) : operand (Number.text n.toInt) = .int64 n := by
  rw [operand, integer?_text]
  rfl

/-- The bound of a printed instant. It is no integer, as it is a date. -/
theorem operand_render? (t : Int64) (s : List Char) (h : Calendar.render? t.toInt = some s) :
    operand s = .dateTime t := by
  have hdate : date? s = some (.dateTime t) := by
    rw [date?, Calendar.instant?_of_render? _ s h, Option.map_some, Int64.ofInt_toInt]
  have hnumber := number?_eq_none_of_date? s _ hdate
  rw [number?, Option.orElse_eq_none] at hnumber
  rw [operand, hnumber.1, hdate]
  rfl

end Coercion

namespace Request

/-- Behind a word for a comparison and a comma, a printed text is the bound. -/
theorem filterValue_word_append (c : Comparator) (s : List Char) (h : s.all isPrinted = true) :
    filterValue (c.word.toList ++ ',' :: s) = .document [(c.key, Coercion.operand s)] := by
  have hcomma : ',' ∈ c.word.toList ++ ',' :: s :=
    List.mem_append_right _ (List.mem_cons_self ..)
  -- The comma rules out all that is tried before a comparison, and the bound stays as it is.
  have hmark : Comparator.mark s = s :=
    (Comparator.mark_eq_self_iff s).mpr fun d => d.not_standsIn_of_isPrinted s h
  have hread := Comparison.read?_word c s
  rw [Text.trim_of_isPrinted s h, hmark] at hread
  rw [filterValue, Coercion.scalar?_eq_none_of_mem_comma _ hcomma,
    List.contains_iff_mem.mpr hcomma, if_pos rfl, hread]
  rfl

/-- As a filter a printed integer stands for itself. -/
theorem filterValue_text (n : Int64) : filterValue (Number.text n.toInt) = .int64 n := by
  -- A name that is no integer is not the text of one.
  have hname : ∀ name : String, readInt? name.toList = none →
      Number.text n.toInt ≠ name.toList := by
    intro name hnone heq
    rw [← heq, readInt?_text] at hnone
    cases hnone
  have htruth : Coercion.truth? (Number.text n.toInt) = none := by
    rw [Coercion.truth?, if_neg (hname "true" (by decide)), if_neg (hname "false" (by decide))]
  rw [filterValue, Coercion.scalar?, Coercion.number?, htruth, Coercion.integer?_text]
  rfl

/-- A printed integer stands for itself as a filter, and behind a word for a
    comparison it is the bound. A printed instant is a bound too, to the
    millisecond and in all years that have a text. -/
theorem filterValue_printed (c : Comparator) :
    (∀ (t : Int64) (s : String), (Value.dateTime t).plain = .string s →
      filterValue (c.word.toList ++ ',' :: s.toList) = .document [(c.key, .dateTime t)]) ∧
    ∀ n : Int64,
      filterValue (c.word.toList ++ ',' :: (Value.int64 n).plain.render) =
        .document [(c.key, .int64 n)] ∧
      filterValue (Value.int64 n).plain.render = .int64 n := by
  refine ⟨fun t s h => ?_, fun n => ?_⟩
  · have hrender := Value.render?_of_plain t s h
    rw [filterValue_word_append c _ (Calendar.all_isPrinted_render? _ _ hrender),
      Coercion.operand_render? t _ hrender]
  · rw [Value.render_plain_int64]
    refine ⟨?_, filterValue_text n⟩
    rw [filterValue_word_append c _ (all_isPrinted_text n.toInt), Coercion.operand_text]

/-- The last millisecond before the epoch, and the last one of a February with 29
    days. -/
theorem filterValue_printed_last_milliseconds :
    filterValue ("gte".toList ++ ',' :: "1969-12-31T23:59:59.999Z".toList) =
        .document [("$gte", .dateTime (-1))] ∧
      filterValue ("lt".toList ++ ',' :: "2024-02-29T23:59:59.999Z".toList) =
        .document [("$lt", .dateTime 1709251199999)] :=
  ⟨(filterValue_printed .gte).1 (-1) "1969-12-31T23:59:59.999Z" (by rfl),
    (filterValue_printed .lt).1 1709251199999 "2024-02-29T23:59:59.999Z" (by rfl)⟩

end Request

end DocQuery
