import DocQuery.Proofs.Calendar.Characters
import DocQuery.Proofs.Number.Characters
import DocQuery.Request.Basic
import Mathlib.Data.List.Chain

/-!
# Numbers and Dates Apart

A text is read as a number before it is read as a date in one place, and as an
integer, a date and a number in this order in another one. Both come to the same,
because no text is a number and a date.

What tells them apart is a hyphen right behind a digit. A date has one after the
year, in every form. A number has none: there is a hyphen in front of it, and one
in front of its exponent behind the letter e, and no other.

The grammar of dates is lenient: a year may have a sign and any number of digits
up to a bound, and months and days one or two. So a date can look very much like
a number, and looking at where it starts or what characters it has does not tell
them apart. The hyphen behind the year does, as an invariant of every part of a
number that can be put together from those of its parts.

## Main definitions

* `HyphensApart`: No hyphen stands right behind a digit.
* `Leads`: A digit is right before the rest of a text.

## Theorems

* `hyphensApart_of_readInt?`, `Decimal.hyphensApart_of_read?`: Numbers have no
  hyphen behind a digit.
* `not_hyphensApart_of_instant?`: Dates have one.
* `Coercion.number?_eq_none_of_date?`: No text is a number and a date.
* `Coercion.number?_orElse_date?`: Both orders of trying give the same.
* `Request.readings_agree`: The value of a text as a filter, as a bound and on
  its own.
-/

namespace DocQuery

namespace Number

/-- No hyphen stands right behind a digit. -/
def HyphensApart (s : List Char) : Prop :=
  s.IsChain fun a b => isDigit a = true → b ≠ '-'

/-- Anything that is no digit may stand in front. -/
theorem hyphensApart_cons_of_not_isDigit (c : Char) (s : List Char) (hc : isDigit c = false)
    (h : HyphensApart s) : HyphensApart (c :: s) := by
  refine List.isChain_cons.mpr ⟨fun b _ hdigit => ?_, h⟩
  rw [hc] at hdigit
  cases hdigit

/-- Digits may stand in front of a text that does not start with a hyphen. -/
theorem hyphensApart_append (digits s : List Char) (hdigits : digits.all isDigit = true)
    (hhead : s.head? ≠ some '-') (h : HyphensApart s) : HyphensApart (digits ++ s) := by
  induction digits with
  | nil => exact h
  | cons c digits ih =>
      rw [List.all_cons, Bool.and_eq_true] at hdigits
      refine List.isChain_cons.mpr ⟨fun b hb _ => ?_, ih hdigits.2⟩
      -- Behind a digit is another one or the start of the rest, and neither is a hyphen.
      rintro rfl
      rcases digits with _ | ⟨d, digits⟩
      · exact hhead hb
      · have hd : d = '-' := Option.some.inj hb
        rw [hd, List.all_cons, Bool.and_eq_true] at hdigits
        exact absurd hdigits.2.1 (by decide)

theorem hyphensApart_of_isDigit (s : List Char) (h : s.all isDigit = true) : HyphensApart s := by
  rw [← List.append_nil s]
  exact hyphensApart_append s [] h nofun .nil

/-- The only hyphen of an integer is in front of it. -/
theorem hyphensApart_of_readInt? (s : List Char) (n : Int) (h : readInt? s = some n) :
    HyphensApart s := by
  have hdigits : ∀ (t : List Char) (m : Nat), readNat? t = some m → HyphensApart t :=
    fun t m ht => hyphensApart_of_isDigit t ((readNat?_eq_some_iff t m).mp ht).2.1
  unfold readInt? at h
  split at h
  · rcases Option.map_eq_some_iff.mp h with ⟨m, hm, -⟩
    exact hyphensApart_cons_of_not_isDigit _ _ (by decide) (hdigits _ m hm)
  · rcases Option.map_eq_some_iff.mp h with ⟨m, hm, -⟩
    exact hyphensApart_cons_of_not_isDigit _ _ (by decide) (hdigits _ m hm)
  · rcases Option.map_eq_some_iff.mp h with ⟨m, hm, -⟩
    exact hdigits _ m hm

namespace Decimal

/-- An exponent starts with a letter, so its hyphen is behind no digit. -/
theorem hyphensApart_of_exponent? (s : List Char) (e : Int) (h : exponent? s = some e) :
    HyphensApart s ∧ s.head? ≠ some '-' := by
  cases s with
  | nil => exact ⟨.nil, nofun⟩
  | cons c s =>
      rw [exponent?] at h
      split at h
      · rename_i hmark
        have hdigit : isDigit c = false := by
          rcases hmark with rfl | rfl
          · decide
          · decide
        have hhyphen : c ≠ '-' := by
          rcases hmark with rfl | rfl
          · decide
          · decide
        exact ⟨hyphensApart_cons_of_not_isDigit c s hdigit (hyphensApart_of_readInt? s e h),
          fun hhead => hhyphen (Option.some.inj hhead)⟩
      · cases h

/-- What is behind the digits in front has no hyphen behind a digit, if this is
    so of the exponent. -/
theorem hyphensApart_of_fraction (s : List Char)
    (h : HyphensApart (fraction s).2 ∧ (fraction s).2.head? ≠ some '-') :
    HyphensApart s ∧ s.head? ≠ some '-' := by
  unfold fraction at h
  split at h
  · -- A point is in front of the digits, and behind them comes what the exponent is read
    -- from.
    rename_i digits
    refine ⟨hyphensApart_cons_of_not_isDigit _ _ (by decide) ?_, by simp⟩
    rw [← List.takeWhile_append_dropWhile (p := isDigit) (l := digits)]
    exact hyphensApart_append _ _ List.all_takeWhile h.2 h.1
  · exact h

/-- A decimal has no hyphen right behind a digit. -/
theorem hyphensApart_of_read? (s : List Char) (x : Decimal) (h : read? s = some x) :
    HyphensApart s := by
  -- A sign in front may be a hyphen, but no digit is before it.
  have hsign : HyphensApart (sign s).2 → HyphensApart s := by
    unfold sign
    split
    · exact hyphensApart_cons_of_not_isDigit _ _ (by decide)
    · exact hyphensApart_cons_of_not_isDigit _ _ (by decide)
    · exact id
  refine hsign ?_
  simp only [read?, readUnsigned?] at h
  generalize (sign s).2 = t at h ⊢
  split at h
  · cases h
  · rcases Option.map_eq_some_iff.mp h with ⟨e, he, -⟩
    rcases hyphensApart_of_fraction _ (hyphensApart_of_exponent? _ e he) with ⟨hrest, hhead⟩
    rw [← List.takeWhile_append_dropWhile (p := isDigit) (l := t)]
    exact hyphensApart_append _ _ List.all_takeWhile hhead hrest

end Decimal

end Number

namespace Calendar

open Number Text

/-- Is a digit right before the rest of a text? -/
def Leads (s rest : List Char) : Prop :=
  ∃ front c, s = front ++ c :: rest ∧ isDigit c = true

/-- The last of some digits is right before what comes behind them. -/
theorem leads_append (digits rest : List Char) (hne : digits ≠ [])
    (hdigits : ∀ c ∈ digits, isDigit c = true) : Leads (digits ++ rest) rest := by
  rcases List.eq_nil_or_concat' digits with rfl | ⟨front, c, rfl⟩
  · exact absurd rfl hne
  · exact ⟨front, c, by rw [List.append_assoc]; rfl, hdigits c (by simp)⟩

theorem Leads.cons {s rest : List Char} (c : Char) (h : Leads s rest) : Leads (c :: s) rest := by
  rcases h with ⟨front, d, rfl, hd⟩
  exact ⟨c :: front, d, rfl, hd⟩

theorem leads_exactly (count n : Nat) (s rest : List Char) (hcount : 0 < count)
    (h : exactly count s = some (n, rest)) : Leads s rest := by
  simp only [exactly] at h
  split at h
  · rename_i hdigits
    cases h
    have hne : s.take count ≠ [] := by
      rw [← List.length_pos_iff, hdigits.1]
      exact hcount
    have hleads := leads_append (s.take count) (s.drop count) hne (List.all_eq_true.mp hdigits.2)
    rwa [List.take_append_drop] at hleads
  · cases h

theorem leads_atMost (limit n : Nat) (s rest : List Char) (h : atMost limit s = some (n, rest)) :
    Leads s rest := by
  have hdigits := forall_mem_take_digitRun limit s
  unfold atMost at h
  split at h
  · cases h
  · rename_i hrun
    cases h
    have hne : s.take (digitRun limit s) ≠ [] := by
      intro hnil
      rcases List.take_eq_nil_iff.mp hnil with hzero | rfl
      · exact hrun hzero
      · cases limit with
        | zero => exact hrun rfl
        | succ limit => exact hrun rfl
    have hleads := leads_append _ (s.drop (digitRun limit s)) hne hdigits
    rwa [List.take_append_drop] at hleads

theorem leads_lenientYear (s rest : List Char) (year : Int)
    (h : lenientYear s = some (year, rest)) : Leads s rest := by
  have htrim : Leads (trimStart s) rest → Leads s rest := by
    rintro ⟨front, c, hs, hc⟩
    refine ⟨s.takeWhile isBlank ++ front, c, ?_, hc⟩
    rw [List.append_assoc, ← hs, trimStart, List.takeWhile_append_dropWhile]
  -- A sign in front of the year moves only the front, so the last digit stays where it is.
  refine htrim ?_
  unfold lenientYear at h
  split at h
  · rename_i t heq
    rcases Option.map_eq_some_iff.mp h with ⟨⟨n, u⟩, hn, hu⟩
    cases hu
    exact heq ▸ (leads_atMost _ n t rest hn).cons '-'
  · rename_i t heq
    rcases Option.map_eq_some_iff.mp h with ⟨⟨n, u⟩, hn, hu⟩
    cases hu
    exact heq ▸ (leads_atMost _ n t rest hn).cons '+'
  · rcases Option.map_eq_some_iff.mp h with ⟨⟨n, u⟩, hn, hu⟩
    cases hu
    exact leads_atMost 4 n _ rest hn

/-- A digit right before a hyphen. -/
theorem not_hyphensApart_of_leads (s rest after : List Char) (h : Leads s rest)
    (hhyphen : expect '-' rest = some after) : ¬ HyphensApart s := by
  rcases h with ⟨front, c, rfl, hc⟩
  rcases rest with _ | ⟨d, rest⟩
  · cases hhyphen
  · rw [expect] at hhyphen
    split at hhyphen
    · rename_i hd
      -- The digit and the hyphen are neighbours in the whole text.
      intro hchain
      exact (List.isChain_append_cons_cons.mp hchain).2.1 hc hd
    · cases hhyphen

/-- A lenient date has a hyphen behind its year. -/
theorem not_hyphensApart_of_lenientDay (s rest : List Char) (date : Date)
    (h : lenientDay s = some (date, rest)) : ¬ HyphensApart s := by
  simp only [lenientDay, Option.bind_eq_bind, Option.bind_eq_some_iff] at h
  rcases h with ⟨⟨year, s₁⟩, h₁, s₂, h₂, -⟩
  exact not_hyphensApart_of_leads s s₁ s₂ (leads_lenientYear s s₁ year h₁) h₂

/-- A date has a hyphen right behind the last digit of its year. -/
theorem not_hyphensApart_of_instant? (s : List Char) (n : Int) (h : instant? s = some n) :
    ¬ HyphensApart s := by
  rcases Option.map_eq_some_iff.mp h with ⟨t, ht, -⟩
  rw [Option.orElse_eq_some, Option.orElse_eq_some] at ht
  -- The three forms begin with a year, a lenient day and a lenient day.
  rcases ht with hstamp | ⟨-, hstamp | ⟨-, hdate⟩⟩
  · unfold rfc3339? stamp? at hstamp
    rcases Option.bind_eq_some_iff.mp hstamp with ⟨⟨year, s₁⟩, h₁, hrest⟩
    rcases Option.bind_eq_some_iff.mp hrest with ⟨s₂, h₂, -⟩
    exact not_hyphensApart_of_leads s s₁ s₂ (leads_exactly 4 year s s₁ (by decide) h₁) h₂
  · unfold lenient? at hstamp
    rcases Option.bind_eq_some_iff.mp hstamp with ⟨⟨date, s₁⟩, h₁, -⟩
    exact not_hyphensApart_of_lenientDay s s₁ date h₁
  · unfold lenientDate? at hdate
    rcases Option.bind_eq_some_iff.mp hdate with ⟨⟨date, s₁⟩, h₁, -⟩
    exact not_hyphensApart_of_lenientDay s s₁ date h₁

end Calendar

namespace Coercion

open Number

/-- A number has no hyphen right behind a digit. -/
theorem hyphensApart_of_number? (s : List Char) (v : Value) (h : number? s = some v) :
    HyphensApart s := by
  rw [number?, Option.orElse_eq_some] at h
  rcases h with hinteger | ⟨-, hreal⟩
  · rcases Option.map_eq_some_iff.mp hinteger with ⟨n, hn, -⟩
    rcases Option.bind_eq_some_iff.mp hn with ⟨m, hm, -⟩
    exact hyphensApart_of_readInt? s m hm
  · rcases Option.map_eq_some_iff.mp hreal with ⟨x, hx, -⟩
    rcases Option.map_eq_some_iff.mp (Option.filter_eq_some_iff.mp hx).1 with ⟨y, hy, -⟩
    exact Decimal.hyphensApart_of_read? s y hy

/-- No text is a number and a date. -/
theorem number?_eq_none_of_date? (s : List Char) (v : Value) (h : date? s = some v) :
    number? s = none := by
  rcases Option.map_eq_some_iff.mp h with ⟨n, hn, -⟩
  refine Option.eq_none_iff_forall_ne_some.mpr fun w hw => ?_
  exact Calendar.not_hyphensApart_of_instant? s n hn (hyphensApart_of_number? s w hw)

/-- It makes no difference whether a text is first tried as a number or as a date,
    as long as the integers are tried first in both cases. -/
theorem number?_orElse_date? (s : List Char) :
    (number? s <|> date? s) = (integer? s <|> date? s <|> real? s) := by
  rcases hdate : date? s with _ | v
  · rw [number?]
    cases integer? s with
    | none => cases real? s <;> rfl
    | some w => rfl
  · -- A date is not an integer and not a real number.
    have hnumber := number?_eq_none_of_date? s v hdate
    rw [number?, Option.orElse_eq_none] at hnumber
    rw [number?, hnumber.1, hnumber.2]
    rfl

/-- A text that is neither the name of a truth value nor an identifier stands for
    a number, or for nothing that does without a context. -/
theorem scalar?_eq_number? (s : List Char) (htrue : s ≠ "true".toList)
    (hfalse : s ≠ "false".toList) (hid : objectId? s = none) : scalar? s = number? s := by
  rw [scalar?, truth?, if_neg htrue, if_neg hfalse, hid]
  cases number? s <;> rfl

end Coercion

namespace Request

/-- No text is a number and a date, so the order in which the two are tried makes
    no difference. A text without a comma that names no truth value and is no
    identifier has the same value on its own and as a bound. As a filter it has this
    value too, but that of a date, which stays a text there. -/
theorem readings_agree (s : List Char) :
    (∀ v, Coercion.date? s = some v → Coercion.integer? s = none ∧ Coercion.real? s = none) ∧
    (Coercion.number? s <|> Coercion.date? s) =
      (Coercion.integer? s <|> Coercion.date? s <|> Coercion.real? s) ∧
    (',' ∉ s → s ≠ "true".toList → s ≠ "false".toList → Coercion.objectId? s = none →
      Coercion.value s = Coercion.operand s ∧
      filterValue s = match Coercion.date? s with
        | some _ => Coercion.text s
        | none => Coercion.value s) := by
  refine ⟨fun v hv => ?_, Coercion.number?_orElse_date? s, fun hcomma htrue hfalse hid => ?_⟩
  · have hnumber := Coercion.number?_eq_none_of_date? s v hv
    rwa [Coercion.number?, Option.orElse_eq_none] at hnumber
  have hscalar := Coercion.scalar?_eq_number? s htrue hfalse hid
  have hcontains : s.contains ',' = false := by
    rw [Bool.eq_false_iff, ne_eq, List.contains_iff_mem]
    exact hcomma
  have hoperand : Coercion.operand s = (Coercion.number? s <|> Coercion.date? s).getD
      (Coercion.text s) := by
    rw [Coercion.operand, Coercion.number?_orElse_date?]
  -- On its own a text without a comma is a number or a date, or stays as it is.
  have hvalue : Coercion.value s = Coercion.operand s := by
    rw [Coercion.value, hscalar, hcontains]
    rcases hnumber : Coercion.number? s with _ | w
    · rfl
    · rw [hoperand, hnumber]
      rfl
  refine ⟨hvalue, ?_⟩
  rw [filterValue, hscalar, hvalue, hoperand, hcontains]
  rcases hdate : Coercion.date? s with _ | v
  · cases Coercion.number? s with
    | none => rfl
    | some w => rfl
  · -- A filter tries no dates, and a date is no number, so the text is all that is left.
    rw [Coercion.number?_eq_none_of_date? s v hdate]
    rfl

/-- A date with a year before zero looks most like a number: it has a sign and
    short parts. -/
theorem readings_agree_signed_date :
    Coercion.value "-5-1-2".toList = Coercion.operand "-5-1-2".toList ∧
      filterValue "-5-1-2".toList = Coercion.text "-5-1-2".toList := by
  rcases (readings_agree "-5-1-2".toList).2.2 (by decide) (by decide) (by decide) (by decide)
    with ⟨hvalue, hfilter⟩
  have hdate : Calendar.instant? "-5-1-2".toList = some (-62324899200000) := by decide
  rw [Coercion.date?, hdate] at hfilter
  exact ⟨hvalue, hfilter⟩

end Request

end DocQuery
