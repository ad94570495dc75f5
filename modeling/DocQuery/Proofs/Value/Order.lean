import DocQuery.Proofs.Number.Rounding
import DocQuery.Value.Order
import Mathlib.Tactic.Common

/-!
# The Order of Values

To compare two values the other way round gives the opposite order, and every
value is equal to itself. But the order of sorting is not transitive. A value
can be equal to each of two others of its rank of which one is less than the
other:

* NaN, which no number compares with;
* a decimal, which has the rank of numbers and compares with none of them;
* a double-precision number between two integers that are rounded to it, since
  integers compare with each other exactly and with it after rounding;
* a symbol between two strings, which have its rank but do not compare with it.

These are all the ways in which it fails. As rounding keeps the order, numbers
of different kinds do no further harm.

The proofs go from inside out. Integers compare exactly and double-precision
numbers by their keys, and both of these are transitive. `blurs_of_numbers`
compares three numbers of either kind: as rounding is monotone, an order that is
broken among them is broken at NaN or between two integers with one rounding.
`blurs_of_compare?` adds the other kinds of values, and `sortOrder_blurred_iff`
the ranks, where a value of another rank in the middle cannot hide anything.

Each way of failing is shown to fail (`Blurs.sortOrder_eq`), so the description
is exact and `sortOrder_preorder` is an equivalence. What follows for lists is
`PreorderOn`: on values where nothing blurs the order, sorting is by a total
preorder.

## Main definitions

* `Value.Blurs`: A value between two others that hides which is greater.
* `Value.PreorderOn`: Values on which the order of sorting is a total preorder.
* `Value.Absent`: A value that is missing to the order of sorting.

## Theorems

* `Value.compare?_swap`, `sortOrder_swap`: Orders the other way round.
* `Value.blurs_of_compare?`: Where values of one rank are not transitive.
* `Value.sortOrder_preorder`: How far the order of sorting is a preorder.
* `Value.sortOrder_rounded`: It is not one on integers and their roundings.
* `Value.sortOrder_of_absent`: What is missing comes first.
-/

namespace DocQuery

open Number

/-- Numbers that are not NaN compare by their keys, the other way round too. -/
theorem Number.Binary64.compare?_swap (x y : Binary64) :
    x.compare? y = (y.compare? x).map Ordering.swap := by
  unfold Binary64.compare?
  rw [Bool.or_comm]
  split
  · rfl
  · rw [Option.map_some, ← Std.OrientedCmp.eq_swap]

namespace Value

/-- Unless both are integers, numbers are compared after rounding. -/
theorem compareNumbers?_of_not_integers (a b : Value)
    (h : a.integer? = none ∨ b.integer? = none) :
    compareNumbers? a b = a.number?.bind fun x => b.number?.bind fun y => x.compare? y := by
  unfold compareNumbers?
  split
  · rename_i hm hn
    rcases h with h | h
    · rw [hm] at h
      cases h
    · rw [hn] at h
      cases h
  · rcases a.number? with _ | x
    · rfl
    · rcases b.number? with _ | y
      · rfl
      · rfl

theorem compareNumbers?_swap (a b : Value) :
    compareNumbers? a b = (compareNumbers? b a).map Ordering.swap := by
  by_cases h : a.integer? = none ∨ b.integer? = none
  · rw [compareNumbers?_of_not_integers a b h, compareNumbers?_of_not_integers b a h.symm]
    rcases a.number? with _ | x
    · rcases b.number? with _ | y
      · rfl
      · rfl
    · rcases b.number? with _ | y
      · rfl
      · exact Binary64.compare?_swap x y
  · -- Two integers compare as integers.
    rw [not_or] at h
    rcases Option.ne_none_iff_exists'.mp h.1 with ⟨m, hm⟩
    rcases Option.ne_none_iff_exists'.mp h.2 with ⟨n, hn⟩
    unfold compareNumbers?
    rw [hm, hn]
    exact congrArg some Std.OrientedCmp.eq_swap

/-- The order of filters the other way round. -/
theorem compare?_swap (a b : Value) : a.compare? b = (b.compare? a).map Ordering.swap := by
  have hnumbers := compareNumbers?_swap a b
  cases a with
  | string s =>
      cases b with
      | string t => exact congrArg some Std.OrientedCmp.eq_swap
      | _ => exact hnumbers
  | boolean s =>
      cases b with
      | boolean t => exact congrArg some Std.OrientedCmp.eq_swap
      | _ => exact hnumbers
  | objectId s =>
      cases b with
      | objectId t => exact congrArg some Std.OrientedCmp.eq_swap
      | _ => exact hnumbers
  | dateTime s =>
      cases b with
      | dateTime t => exact congrArg some Std.OrientedCmp.eq_swap
      | _ => exact hnumbers
  | _ =>
      cases b with
      | _ => exact hnumbers

/-- The order of sorting the other way round. -/
theorem sortOrder_swap (a b : Option Value) : sortOrder a b = (sortOrder b a).swap := by
  have hrank : compare (rank? a) (rank? b) = (compare (rank? b) (rank? a)).swap :=
    Std.OrientedCmp.eq_swap
  unfold sortOrder
  rw [Ordering.swap_then, hrank]
  congr 1
  rcases a with _ | a
  · rcases b with _ | b
    · rfl
    · rfl
  · rcases b with _ | b
    · rfl
    · simp only
      rw [compare?_swap a b]
      rcases b.compare? a with _ | o
      · rfl
      · rfl

/-- The order of integers is exact. -/
theorem compareNumbers?_of_integers {a b : Value} {m n : Int} (ha : a.integer? = some m)
    (hb : b.integer? = some n) : compareNumbers? a b = some (compare m n) := by
  unfold compareNumbers?
  rw [ha, hb]

/-- An integer is a number, its rounding. -/
theorem number?_of_integer? {a : Value} {m : Int} (h : a.integer? = some m) :
    a.number? = some (.ofInt m) := by
  cases a with
  | int32 n => exact congrArg (Option.map Binary64.ofInt) h
  | int64 n => exact congrArg (Option.map Binary64.ofInt) h
  | _ => cases h

/-- A number that is no integer is one in double precision. -/
theorem eq_double_of_number? {a : Value} {x : Binary64} (h : a.number? = some x)
    (ha : a.integer? = none) : a = .double x := by
  cases a with
  | double y =>
      cases h
      rfl
  | int32 n => cases ha
  | int64 n => cases ha
  | _ => cases h

/-- Numbers other than NaN are ordered as they are after rounding, or more
    finely. -/
theorem key_le_of_compareNumbers? {a b : Value} {x y : Binary64} (ha : a.number? = some x)
    (hb : b.number? = some y) (hx : x.isNaN = false) (hy : y.isNaN = false)
    (h : compareNumbers? a b ≠ some .gt) : x.key ≤ y.key := by
  -- Two integers compare exactly, and rounding keeps their order.
  by_cases hinteger : a.integer? = none ∨ b.integer? = none
  · rw [compareNumbers?_of_not_integers a b hinteger, ha, hb] at h
    simp only [Option.bind_some, Binary64.compare?, hx, hy, Bool.or_self, Bool.false_eq_true,
      if_false, ne_eq, Option.some.injEq] at h
    exact Int.not_lt.mp (mt Int.compare_eq_gt.mpr h)
  · rw [not_or] at hinteger
    rcases Option.ne_none_iff_exists'.mp hinteger.1 with ⟨m, hm⟩
    rcases Option.ne_none_iff_exists'.mp hinteger.2 with ⟨n, hn⟩
    rw [compareNumbers?_of_integers hm hn, ne_eq, Option.some.injEq] at h
    rw [number?_of_integer? hm] at ha
    rw [number?_of_integer? hn] at hb
    cases ha
    cases hb
    exact Binary64.key_ofInt_mono (Int.not_lt.mp (mt Int.compare_eq_gt.mpr h))

/-- A value between two others of its rank that hides that the first of them is
    greater than the second. -/
inductive Blurs : Value → Value → Value → Prop
  | nan {a c : Value} (x : Binary64) (hx : x.isNaN = true)
      (h : compareNumbers? a c = some .gt) : Blurs a (.double x) c
  | decimal {a c : Value} (x : Decimal128) (h : compareNumbers? a c = some .gt) :
      Blurs a (.decimal x) c
  | rounded {a c : Value} (x : Binary64) (m n : Int) (ha : a.integer? = some m)
      (hc : c.integer? = some n) (h : n < m) (hm : (Binary64.ofInt m).compare? x = some .eq)
      (hn : (Binary64.ofInt n).compare? x = some .eq) : Blurs a (.double x) c
  | symbol (s t u : String) (h : compare t u = .gt) : Blurs (.string t) (.symbol s) (.string u)

/-- Of numbers that compare, those that are no integers are not NaN. -/
theorem numbers_of_compareNumbers? {a b : Value} {o : Ordering}
    (h : compareNumbers? a b = some o) :
    ∃ x y, a.number? = some x ∧ b.number? = some y ∧ x.isNaN = false ∧ y.isNaN = false := by
  by_cases hinteger : a.integer? = none ∨ b.integer? = none
  · rw [compareNumbers?_of_not_integers a b hinteger] at h
    rcases Option.bind_eq_some_iff.mp h with ⟨x, hx, h⟩
    rcases Option.bind_eq_some_iff.mp h with ⟨y, hy, h⟩
    -- NaN compares with nothing, so neither of the two is NaN.
    have hnan := mt (Binary64.compare?_eq_none_iff x y).mpr (by rw [h]; exact nofun)
    rw [not_or, Bool.not_eq_true, Bool.not_eq_true] at hnan
    exact ⟨x, y, hx, hy, hnan.1, hnan.2⟩
  · rw [not_or] at hinteger
    rcases Option.ne_none_iff_exists'.mp hinteger.1 with ⟨m, hm⟩
    rcases Option.ne_none_iff_exists'.mp hinteger.2 with ⟨n, hn⟩
    exact ⟨_, _, number?_of_integer? hm, number?_of_integer? hn, Binary64.isNaN_ofInt m,
      Binary64.isNaN_ofInt n⟩

/-- A number between two others that are out of order is NaN, or both are
    integers that are rounded to it. -/
theorem blurs_of_numbers {a b c : Value} {y : Binary64} (hb : b.number? = some y)
    (hab : compareNumbers? a b ≠ some .gt) (hbc : compareNumbers? b c ≠ some .gt)
    (hac : compareNumbers? a c = some .gt) : Blurs a b c := by
  rcases numbers_of_compareNumbers? hac with ⟨x, z, ha, hc, hx, hz⟩
  rcases hy : y.isNaN with _ | _
  · have hxy := key_le_of_compareNumbers? ha hb hx hy hab
    have hyz := key_le_of_compareNumbers? hb hc hy hz hbc
    by_cases hinteger : a.integer? = none ∨ c.integer? = none
    · -- The outer numbers compare as they are after rounding, which is transitive.
      rw [compareNumbers?_of_not_integers a c hinteger, ha, hc] at hac
      simp only [Option.bind_some, Binary64.compare?, hx, hz, Bool.or_self, Bool.false_eq_true,
        if_false, Option.some.injEq, Int.compare_eq_gt] at hac
      omega
    · rw [not_or] at hinteger
      rcases Option.ne_none_iff_exists'.mp hinteger.1 with ⟨m, hm⟩
      rcases Option.ne_none_iff_exists'.mp hinteger.2 with ⟨n, hn⟩
      rw [compareNumbers?_of_integers hm hn, Option.some.injEq, Int.compare_eq_gt] at hac
      -- The outer two are integers, and the value between them has their keys on both
      -- sides.
      have hround := Binary64.key_ofInt_mono (Int.le_of_lt hac)
      rw [number?_of_integer? hm] at ha
      rw [number?_of_integer? hn] at hc
      cases ha
      cases hc
      rcases hk : b.integer? with _ | k
      · have heq : ∀ w : Binary64, w.isNaN = false → w.key = y.key → w.compare? y = some .eq := by
          intro w hw hkey
          rw [Binary64.compare?, hw, hy, hkey]
          exact congrArg some (Int.compare_eq_eq.mpr rfl)
        rw [eq_double_of_number? hb hk]
        exact .rounded y m n hm hn hac (heq _ hx (by omega)) (heq _ hz (by omega))
      · -- An integer between the two would have to be between them exactly.
        rw [compareNumbers?_of_integers hm hk, ne_eq, Option.some.injEq, Int.compare_eq_gt] at hab
        rw [compareNumbers?_of_integers hk hn, ne_eq, Option.some.injEq, Int.compare_eq_gt] at hbc
        omega
  · -- The value between them is NaN, which no integer is rounded to.
    have hk : b.integer? = none := by
      rcases hk : b.integer? with _ | k
      · rfl
      · rw [number?_of_integer? hk] at hb
        cases hb
        rw [Binary64.isNaN_ofInt] at hy
        cases hy
    rw [eq_double_of_number? hb hk]
    exact .nan y hy hac

/-- A transitive order of the values of a kind leaves no room for a value
    between two that are out of order. -/
theorem compare_trans {α : Type} [Ord α] [Std.TransOrd α] {a b c : α}
    (hab : some (compare a b) ≠ some .gt) (hbc : some (compare b c) ≠ some .gt) :
    some (compare a c) ≠ some .gt := by
  rw [ne_eq, Option.some.injEq] at hab hbc ⊢
  exact Ordering.isLE_iff_ne_gt.mp (Std.TransOrd.isLE_trans (Ordering.isLE_iff_ne_gt.mpr hab)
    (Ordering.isLE_iff_ne_gt.mpr hbc))

/-- What compares as a number has the rank of numbers. -/
theorem rank_of_number? {v : Value} {x : Binary64} (h : v.number? = some x) : rank v = 2 := by
  cases v with
  | int32 n => rfl
  | int64 n => rfl
  | double y => rfl
  | _ => cases h

/-- The values with the rank of numbers are those that compare as numbers, and
    the decimals. -/
theorem rank_eq_two_iff (v : Value) :
    rank v = 2 ↔ (∃ x, v.number? = some x) ∨ ∃ x, v = .decimal x := by
  constructor
  · intro h
    cases v with
    | int32 n => exact .inl ⟨_, rfl⟩
    | int64 n => exact .inl ⟨_, rfl⟩
    | double x => exact .inl ⟨x, rfl⟩
    | decimal x => exact .inr ⟨x, rfl⟩
    | _ => cases h
  · rintro (⟨x, hx⟩ | ⟨x, rfl⟩)
    · exact rank_of_number? hx
    · rfl

/-- A number compares with anything as a number, or not at all. -/
theorem compare?_of_number? {a : Value} {x : Binary64} (h : a.number? = some x) (b : Value) :
    a.compare? b = compareNumbers? a b := by
  cases a with
  | int32 n => rfl
  | int64 n => rfl
  | double y => rfl
  | _ => cases h

/-- Nothing compares with a decimal. -/
theorem compare?_decimal (v : Value) (x : Decimal128) : v.compare? (.decimal x) = none := by
  cases v with
  | _ => rfl

/-- Where values of one rank are not transitive. -/
theorem blurs_of_compare? {a b c : Value} (hrank : rank a = rank b)
    (hab : a.compare? b ≠ some .gt) (hbc : b.compare? c ≠ some .gt)
    (hac : a.compare? c = some .gt) : Blurs a b c := by
  by_cases hnumber : rank a = 2
  · rcases (rank_eq_two_iff a).mp hnumber with ⟨x, hx⟩ | ⟨x, rfl⟩
    · rw [compare?_of_number? hx] at hab hac
      rcases (rank_eq_two_iff b).mp (hrank.symm.trans hnumber) with ⟨y, hy⟩ | ⟨y, rfl⟩
      · rw [compare?_of_number? hy] at hbc
        exact blurs_of_numbers hy hab hbc hac
      · exact .decimal y hac
    · -- A decimal is not greater than anything.
      cases hac
  · -- Four other kinds of values compare, each with itself.
    cases a with
    | string t =>
        cases c with
        | string u =>
            cases b with
            | string s => exact absurd hac (compare_trans hab hbc)
            | symbol s => exact .symbol s t u (Option.some.inj hac)
            | _ => cases hrank
        | _ => cases hac
    | boolean t =>
        cases c with
        | boolean u =>
            cases b with
            | boolean s => exact absurd hac (compare_trans hab hbc)
            | _ => cases hrank
        | _ => cases hac
    | objectId t =>
        cases c with
        | objectId u =>
            cases b with
            | objectId s => exact absurd hac (compare_trans hab hbc)
            | _ => cases hrank
        | _ => cases hac
    | dateTime t =>
        cases c with
        | dateTime u =>
            cases b with
            | dateTime s => exact absurd hac (compare_trans hab hbc)
            | _ => cases hrank
        | _ => cases hac
    | int32 n => exact absurd rfl hnumber
    | int64 n => exact absurd rfl hnumber
    | double x => exact absurd rfl hnumber
    | decimal x => exact absurd rfl hnumber
    | _ => cases hac

/-- Within a rank, what does not compare is equal. -/
theorem sortOrder_of_rank {a b : Value} (h : rank a = rank b) :
    sortOrder (some a) (some b) = (a.compare? b).getD .eq := by
  have hrank : compare (rank? (some a)) (rank? (some b)) = .eq := Nat.compare_eq_eq.mpr h
  unfold sortOrder
  rw [hrank]
  rfl

/-- The ranks decide before anything else. -/
theorem rank_le_of_sortOrder {a b : Option Value} (h : sortOrder a b ≠ .gt) :
    rank? a ≤ rank? b := by
  by_contra hlt
  have hrank : compare (rank? a) (rank? b) = .gt :=
    Nat.compare_eq_gt.mpr (Nat.lt_of_not_le hlt)
  unfold sortOrder at h
  rw [hrank] at h
  exact h rfl

/-- Values that are out of order are out of order by rank or within it. -/
theorem compare?_of_sortOrder {a b : Option Value} (h : sortOrder a b = .gt)
    (hrank : rank? a ≤ rank? b) :
    ∃ u v, a = some u ∧ b = some v ∧ rank u = rank v ∧ u.compare? v = some .gt := by
  have hge : rank? b ≤ rank? a := by
    refine rank_le_of_sortOrder ?_
    rw [sortOrder_swap b a, h]
    decide
  have heq := Nat.le_antisymm hrank hge
  have hcompare : compare (rank? a) (rank? b) = .eq := Nat.compare_eq_eq.mpr heq
  unfold sortOrder at h
  rw [hcompare, Ordering.eq_then] at h
  rcases a with _ | u
  · cases h
  rcases b with _ | v
  · cases h
  refine ⟨u, v, rfl, rfl, heq, ?_⟩
  -- The ranks are equal, so the values compare, and not as equal ones.
  change (u.compare? v).getD .eq = .gt at h
  rcases ho : u.compare? v with _ | o
  · rw [ho] at h
    cases h
  · rw [ho] at h
    exact congrArg some h

/-- A value that blurs the order has the rank of the values around it. -/
theorem Blurs.rank_eq {a b c : Value} (h : Blurs a b c) : rank a = rank b ∧ rank b = rank c := by
  cases h with
  | nan x hx hac =>
      rcases numbers_of_compareNumbers? hac with ⟨y, z, ha, hc, -⟩
      exact ⟨rank_of_number? ha, (rank_of_number? hc).symm⟩
  | decimal x hac =>
      rcases numbers_of_compareNumbers? hac with ⟨y, z, ha, hc, -⟩
      exact ⟨rank_of_number? ha, (rank_of_number? hc).symm⟩
  | rounded x m n ha hc =>
      exact ⟨rank_of_number? (number?_of_integer? ha),
        (rank_of_number? (number?_of_integer? hc)).symm⟩
  | symbol s t u => exact ⟨rfl, rfl⟩

/-- A value that blurs the order is equal to both of the values around it. -/
theorem Blurs.sortOrder_eq {a b c : Value} (h : Blurs a b c) :
    sortOrder (some a) (some b) = .eq ∧ sortOrder (some b) (some c) = .eq ∧
      sortOrder (some a) (some c) = .gt := by
  rcases h.rank_eq with ⟨hab, hbc⟩
  rw [sortOrder_swap (some b) (some c), sortOrder_of_rank hab, sortOrder_of_rank hbc.symm,
    sortOrder_of_rank (hab.trans hbc)]
  cases h with
  | nan x hx hac =>
      -- No number compares with NaN, so each is equal to it.
      have hnone : ∀ {v : Value} {y : Binary64}, v.number? = some y →
          v.compare? (.double x) = none := by
        intro v y hv
        rw [compare?_of_number? hv, compareNumbers?_of_not_integers v (.double x) (.inr rfl), hv]
        exact (Binary64.compare?_eq_none_iff y x).mpr (.inr hx)
      rcases numbers_of_compareNumbers? hac with ⟨y, z, ha, hc, -⟩
      rw [hnone ha, hnone hc, compare?_of_number? ha, hac]
      exact ⟨rfl, rfl, rfl⟩
  | decimal x hac =>
      rcases numbers_of_compareNumbers? hac with ⟨y, z, ha, hc, -⟩
      rw [compare?_decimal, compare?_decimal, compare?_of_number? ha, hac]
      exact ⟨rfl, rfl, rfl⟩
  | rounded x m n ha hc hlt hm hn =>
      -- An integer is rounded before it is compared with a number that is none.
      have hround : ∀ {v : Value} {k : Int}, v.integer? = some k →
          v.compare? (.double x) = (Binary64.ofInt k).compare? x := by
        intro v k hv
        have hnumber := number?_of_integer? hv
        rw [compare?_of_number? hnumber, compareNumbers?_of_not_integers v (.double x) (.inr rfl),
          hnumber]
        rfl
      rw [hround ha, hround hc, hm, hn, compare?_of_number? (number?_of_integer? ha),
        compareNumbers?_of_integers ha hc, Int.compare_eq_gt.mpr hlt]
      exact ⟨rfl, rfl, rfl⟩
  | symbol s t u htu => exact ⟨rfl, rfl, htu⟩

/-- Values are out of order around a value exactly if it blurs the order. -/
theorem sortOrder_blurred_iff (a b c : Option Value) :
    (sortOrder a b ≠ .gt ∧ sortOrder b c ≠ .gt ∧ sortOrder a c = .gt) ↔
      ∃ u v w, a = some u ∧ b = some v ∧ c = some w ∧ Blurs u v w := by
  constructor
  · rintro ⟨hab, hbc, hac⟩
    have hrank := rank_le_of_sortOrder hab
    have hrank' := rank_le_of_sortOrder hbc
    rcases compare?_of_sortOrder hac (Nat.le_trans hrank hrank') with ⟨u, w, rfl, rfl, huw, hgt⟩
    -- The outer values have one rank, so the value between them has it too.
    have heq : rank? b = rank u := by
      change rank u ≤ rank? b at hrank
      change rank? b ≤ rank w at hrank'
      omega
    rcases b with _ | v
    · -- A missing value has the rank of null, and of that rank nothing compares.
      have hone : rank u = 1 := heq.symm
      exfalso
      cases u with
      | null => cases hgt
      | undefined => cases hgt
      | _ => cases hone
    · have hv : rank v = rank u := heq
      rw [sortOrder_of_rank hv.symm] at hab
      rw [sortOrder_of_rank (hv.trans huw)] at hbc
      -- Within a rank, not to be greater is not to compare as greater.
      have hsome : ∀ {o : Option Ordering}, o.getD .eq ≠ .gt → o ≠ some .gt := by
        rintro o ho rfl
        exact ho rfl
      exact ⟨u, v, w, rfl, rfl, rfl, blurs_of_compare? hv.symm (hsome hab) (hsome hbc) hgt⟩
  · rintro ⟨u, v, w, rfl, rfl, rfl, h⟩
    rcases h.sortOrder_eq with ⟨huv, hvw, huw⟩
    rw [huv, hvw]
    exact ⟨nofun, nofun, huw⟩

instance : Std.OrientedCmp sortOrder :=
  ⟨sortOrder_swap _ _⟩

/-- Every value is equal to itself in the order of sorting. -/
theorem sortOrder_self (a : Option Value) : sortOrder a a = .eq :=
  Std.ReflCmp.compare_self

/-- How far the order of sorting is a total preorder of values and missing
    ones. It is reflexive and total, and transitive except across a value that
    blurs it. -/
theorem sortOrder_preorder (a b c : Option Value) :
    sortOrder a a = .eq ∧ sortOrder b a = (sortOrder a b).swap ∧
      ((sortOrder a b ≠ .gt ∧ sortOrder b c ≠ .gt ∧ sortOrder a c = .gt) ↔
        ∃ u v w, a = some u ∧ b = some v ∧ c = some w ∧ Blurs u v w) :=
  ⟨sortOrder_self a, sortOrder_swap b a, sortOrder_blurred_iff a b c⟩

/-- The order is not transitive on two integers that are rounded to one number
    and that number between them. -/
theorem sortOrder_rounded :
    sortOrder (some (.int64 9007199254740993)) (some (.double ⟨0x4340000000000000⟩)) = .eq ∧
      sortOrder (some (.double ⟨0x4340000000000000⟩)) (some (.int64 9007199254740992)) = .eq ∧
      sortOrder (some (.int64 9007199254740993)) (some (.int64 9007199254740992)) = .gt := by
  decide

/-- The order of sorting is a total preorder of some values: it is transitive on
    them, as it is reflexive and total on all. -/
def PreorderOn (values : List (Option Value)) : Prop :=
  ∀ a ∈ values, ∀ b ∈ values, ∀ c ∈ values,
    sortOrder a b ≠ .gt → sortOrder b c ≠ .gt → sortOrder a c ≠ .gt

/-- A value that is missing, or as good as missing to the order of sorting. -/
def Absent (v : Option Value) : Prop :=
  v = none ∨ v = some .null ∨ v = some .undefined

/-- What is missing has the lowest rank of all that occurs. -/
theorem absent_iff (v : Option Value) : Absent v ↔ rank? v = 1 := by
  rcases v with _ | v
  · exact iff_of_true (.inl rfl) rfl
  · cases v with
    | null => exact iff_of_true (.inr (.inl rfl)) rfl
    | undefined => exact iff_of_true (.inr (.inr rfl)) rfl
    | _ => exact iff_of_false (by simp [Absent]) nofun

/-- What is missing is equal to what is missing, and less than everything else. -/
theorem sortOrder_of_absent {a : Option Value} (ha : Absent a) (b : Option Value) :
    (Absent b → sortOrder a b = .eq) ∧ (¬Absent b → sortOrder a b = .lt) := by
  have hrank := (absent_iff a).mp ha
  constructor
  · -- The two are of one rank, in which nothing compares.
    intro hb
    rcases ha with rfl | rfl | rfl
    · rcases hb with rfl | rfl | rfl
      · rfl
      · rfl
      · rfl
    · rcases hb with rfl | rfl | rfl
      · rfl
      · rfl
      · rfl
    · rcases hb with rfl | rfl | rfl
      · rfl
      · rfl
      · rfl
  · intro hb
    have hone : rank? b ≠ 1 := mt (absent_iff b).mpr hb
    have hpos : 0 < rank? b := by
      rcases b with _ | v
      · exact Nat.succ_pos _
      · cases v with
        | _ => exact Nat.succ_pos _
    have hcompare : compare (rank? a) (rank? b) = .lt := by
      rw [hrank]
      exact Nat.compare_eq_lt.mpr (by omega)
    unfold sortOrder
    rw [hcompare]
    rfl

end Value

end DocQuery
