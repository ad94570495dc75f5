import DocQuery.Proofs.Filter.Reach
import DocQuery.Proofs.Request.Filters
import DocQuery.Proofs.Value.Order

/-!
# Bounds and Equality

To ask for a value and to compare with it are two different questions. Equality
and order are functions of their own, each with its own cases for integers,
numbers of other kinds and everything else, and each looks into arrays in its
own way. They fit together nevertheless: a value is equal to a bound exactly if
it compares with it as equal, whatever its kind is. So to be at least the bound
is to be greater or equal, and of less, equal and greater no two hold together.

Among numbers this includes those that are compared after rounding. An integer
that is rounded to a bound is equal to it, and then it is neither less nor
greater. NaN is not equal to itself and compares with nothing, so none of the
three holds.

An array satisfies a comparison if an element does. Different elements can be
less than the bound and greater than it, so for an array more than one of the
three can hold.

Equality is proved to be the order's equality once for each kind of bound
(`Value.same_eq_compare?`). Identifiers and times have to be looked at, since
one function compares them as they are and the other as numbers. All the rest is
about a comparator as a test of the outcome of a comparison, where there are
three outcomes and none.

A filter does not test one value but whatever is read at its path, so the laws
are carried from values to what is found (`passes_or`). That at least means
greater or equal holds for arrays too, since one element is enough for each
side. That no two hold together does not, and the statement says so.

## Main definitions

* `Value.isBound`: A value that has an order among values of its kind.

## Theorems

* `Value.same_eq_compare?`: Equality is what the order says.
* `Filter.passes_or`: What passes one of two tests.
* `Filter.countP_compareWith`: How many of less, equal and greater hold.
* `Filter.readField_bound`: Comparisons with a bound fit together.
-/

namespace DocQuery

open Number

namespace Value

/-- A value that has an order among the values of its kind. -/
def isBound : Value → Bool
  | int32 _ | int64 _ | double _ | string _ | boolean _ | objectId _ | dateTime _ => true
  | _ => false

/-- A bound is neither null nor made of other values. -/
theorem isSingle_of_isBound (b : Value) (hb : b.isBound = true) : b.isSingle = true := by
  cases b with
  | null | array _ | document _ => cases hb
  | _ => rfl

/-- In an order that tells apart whatever differs, to be equal is to compare as
    equal. -/
theorem beq_eq_compare {α : Type} [BEq α] [LawfulBEq α] [Ord α] [Std.LawfulEqOrd α] (a b : α) :
    (a == b) = (some (compare a b) == some .eq) := by
  by_cases h : a = b
  · subst h
    simp
  · -- What differs does not compare as equal.
    have hne : compare a b ≠ .eq := fun heq => h (Std.LawfulEqOrd.eq_of_compare heq)
    rw [beq_eq_false_iff_ne.mpr h, beq_eq_false_iff_ne.mpr (by simpa using hne)]

/-- A value is equal to a number if it is one and compares with it as equal. -/
theorem same_eq_compare?_of_number? (v b : Value) (y : Binary64) (hb : b.number? = some y) :
    v.same b = (v.compare? b == some .eq) := by
  rcases hv : v.number? with _ | x
  · -- What is no number is neither equal to one nor compares with it.
    have hnone : v.compare? b = none := by
      rw [compare?_swap, compare?_of_number? hb, compareNumbers?_swap,
        compareNumbers?_of_not_integers, hv]
      · rfl
      · refine .inl ?_
        by_contra hinteger
        rcases Option.ne_none_iff_exists'.mp hinteger with ⟨m, hm⟩
        rw [number?_of_integer? hm] at hv
        cases hv
    -- To be identical it would have to be of the same kind.
    have hdiffer : v.identical b = false := by
      cases b with
      | int32 n =>
          cases v with
          | int32 m => cases hv
          | _ => rfl
      | int64 n =>
          cases v with
          | int64 m => cases hv
          | _ => rfl
      | double y =>
          cases v with
          | double x => cases hv
          | _ => rfl
      | _ => cases hb
    rw [hnone, same, areNumbers, hv, if_neg (by simp), hdiffer]
    rfl
  · -- Of two numbers both functions ask the same.
    rw [same, areNumbers, hv, hb, compare?_of_number? hv]
    rfl

/-- A value is equal to a bound exactly if it compares with it as equal. -/
theorem same_eq_compare? (v b : Value) (hb : b.isBound = true) :
    v.same b = (v.compare? b == some .eq) := by
  -- A value of another kind than the bound is not equal to it and does not compare with it.
  cases b with
  | int32 n => exact same_eq_compare?_of_number? v _ _ rfl
  | int64 n => exact same_eq_compare?_of_number? v _ _ rfl
  | double y => exact same_eq_compare?_of_number? v _ _ rfl
  | string t =>
      cases v with
      | string s => exact beq_eq_compare s t
      | _ => rfl
  | boolean t =>
      cases v with
      | boolean s => exact beq_eq_compare s t
      | _ => rfl
  | objectId t =>
      cases v with
      | objectId s =>
          -- Identifiers are compared as numbers, and so are times.
          have hcode : (s == t) = (s.code.toNat == t.code.toNat) := by
            rw [Bool.eq_iff_iff, beq_iff_eq, beq_iff_eq, BitVec.toNat_inj]
            constructor
            · exact congrArg ObjectId.code
            · rcases s with ⟨s⟩
              exact congrArg ObjectId.mk
          exact hcode.trans (beq_eq_compare _ _)
      | _ => rfl
  | dateTime t =>
      cases v with
      | dateTime s =>
          have hmillis : (s == t) = (s.toInt == t.toInt) := by
            rw [Bool.eq_iff_iff, beq_iff_eq, beq_iff_eq, Int64.toInt_inj]
          exact hmillis.trans (beq_eq_compare _ _)
      | _ => rfl
  | _ => cases hb

end Value

namespace Filter

theorem passes_or (f g : Value → Bool) (found : Option Value) :
    passes (fun v => f v || g v) found = (passes f found || passes g found) := by
  rcases found with _ | v
  · rfl
  · cases v with
    | array items =>
        rw [Bool.eq_iff_iff]
        simp only [passes, Bool.or_eq_true, List.any_eq_true]
        constructor
        · -- The element that passes one of the two tests passes that one.
          rintro ⟨u, hmem, hf | hg⟩
          · exact .inl ⟨u, hmem, hf⟩
          · exact .inr ⟨u, hmem, hg⟩
        · rintro (⟨u, hmem, hf⟩ | ⟨u, hmem, hg⟩)
          · exact ⟨u, hmem, .inl hf⟩
          · exact ⟨u, hmem, .inr hg⟩
    | _ => rfl

/-- To compare with a bound is to ask whether the outcome is admitted, if there
    is one. -/
theorem compareWith_eq_any (c : Comparator) (b v : Value) :
    compareWith c b v = (v.compare? b).any c.admits := by
  unfold compareWith
  rcases v.compare? b with _ | o
  · rfl
  · rfl

theorem compareWith_gte (b v : Value) (hb : b.isBound = true) :
    compareWith .gte b v = (compareWith .gt b v || v.same b) := by
  rw [Value.same_eq_compare? v b hb, compareWith_eq_any, compareWith_eq_any]
  rcases v.compare? b with _ | o
  · rfl
  · cases o with
    | _ => rfl

theorem compareWith_lte (b v : Value) (hb : b.isBound = true) :
    compareWith .lte b v = (compareWith .lt b v || v.same b) := by
  rw [Value.same_eq_compare? v b hb, compareWith_eq_any, compareWith_eq_any]
  rcases v.compare? b with _ | o
  · rfl
  · cases o with
    | _ => rfl

/-- Of less, equal and greater exactly one holds of a value that compares with
    the bound, and none of any other value. -/
theorem countP_compareWith (b v : Value) (hb : b.isBound = true) :
    [compareWith .lt b, fun u => u.same b, compareWith .gt b].countP (fun test => test v) =
      if (v.compare? b).isSome then 1 else 0 := by
  simp only [List.countP_cons, List.countP_nil, Value.same_eq_compare? v b hb,
    compareWith_eq_any]
  -- There is no outcome, or one of three, and each is admitted by one of the tests.
  rcases v.compare? b with _ | o
  · rfl
  · cases o with
    | _ => rfl

/-- What is no array is tested itself. -/
theorem passes_of_ne_array (test : Value → Bool) (v : Value) (hv : ∀ items, v ≠ .array items) :
    passes test (some v) = test v := by
  cases v with
  | array items => exact absurd rfl (hv items)
  | _ => rfl

/-- At every path, comparisons with a bound and the question for the bound itself
    fit together: at least is greater or equal, at most is less or equal, and of
    less, equal and greater exactly one holds if the value at the path is no
    array and compares with the bound, and none if it does not compare. All of
    them can be read, unless the path starts with a dollar sign. Such a name
    stands for an operator, which takes an array. -/
theorem readField_bound (name : String) (b : Value) (hb : b.isBound = true) :
    ∃ (equal : Filter) (ordered : Comparator → Filter),
      readField name b = .ok equal ∧
      readField name (.document [("$eq", b)]) = .ok equal ∧
      (∀ c : Comparator, readField name (.document [(c.key, b)]) = .ok (ordered c)) ∧
      (isOperator name = false → ∀ v, read [(name, v)] = readField name v) ∧
      (isOperator name = true → ∀ v, (∀ items, v ≠ .array items) → ¬Readable [(name, v)]) ∧
      ∀ d,
        (ordered .gte).holds d = ((ordered .gt).holds d || equal.holds d) ∧
        (ordered .lte).holds d = ((ordered .lt).holds d || equal.holds d) ∧
        ∀ v, d.at? (Path.ofString name) = some v → (∀ items, v ≠ .array items) →
          [ordered .lt, equal, ordered .gt].countP (fun f => f.holds d) =
            if (v.compare? b).isSome then 1 else 0 := by
  have hsingle := Value.isSingle_of_isBound b hb
  -- A bound is no document, so it is asked for as it is.
  have hplain : Request.Plain b := by
    rintro fields rfl
    cases hb
  refine ⟨equals (Path.ofString name) b, fun c => compares c (Path.ofString name) b,
    Request.readField_plain name b hplain, ?_,
    fun c => Request.readField_comparison name ⟨c, b⟩, ?_, ?_, fun d => ?_⟩
  · -- To ask for equality is to ask for the bound itself.
    rfl
  · intro hname v
    rw [read_singleton, readEntry_of_not_isOperator name v hname]
  · exact fun hname v => not_readable_of_isOperator name v hname
  · simp only [holds, equal_eq_passes _ b hsingle, ← passes_or]
    refine ⟨?_, ?_, fun v hat hv => ?_⟩
    · exact congrArg (passes · _) (funext fun v => compareWith_gte b v hb)
    · exact congrArg (passes · _) (funext fun v => compareWith_lte b v hb)
    · -- The path leads to one value, so the filters count what the tests count.
      rw [← countP_compareWith b v hb]
      simp only [List.countP_cons, List.countP_nil, holds, equal_eq_passes _ b hsingle, hat,
        passes_of_ne_array _ v hv]

/-- A number to which an integer next to it is rounded. -/
def roundedDocument : Document :=
  [("size", .document [("bytes", .double ⟨0x4340000000000000⟩)])]

/-- The number is equal to an integer that is rounded to it. So it is at least
    that integer and at most that integer, and neither less nor greater. -/
theorem readField_bound_rounded :
    (Value.int64 9007199254740993).isBound = true ∧
      ∃ (equal : Filter) (ordered : Comparator → Filter),
        read [("size.bytes", .int64 9007199254740993)] = .ok equal ∧
        (∀ c : Comparator,
          read [("size.bytes", .document [(c.key, .int64 9007199254740993)])] = .ok (ordered c)) ∧
        equal.holds roundedDocument = true ∧ (ordered .gte).holds roundedDocument = true ∧
          (ordered .lte).holds roundedDocument = true ∧
          [ordered .lt, equal, ordered .gt].countP (fun f => f.holds roundedDocument) = 1 := by
  have hb : (Value.int64 9007199254740993).isBound = true := rfl
  rcases readField_bound "size.bytes" (.int64 9007199254740993) hb with
    ⟨equal, ordered, hequal, -, hordered, hread, -, hholds⟩
  have hname : isOperator "size.bytes" = false := by decide
  have hpath : Path.ofString "size.bytes" = ["size", "bytes"] := by decide
  have hat : roundedDocument.at? (Path.ofString "size.bytes") =
      some (.double ⟨0x4340000000000000⟩) := by
    rw [hpath]
    rfl
  rcases hholds roundedDocument with ⟨hgte, hlte, hcount⟩
  have hfilter : equal = equals (Path.ofString "size.bytes") (.int64 9007199254740993) :=
    (Except.ok.inj hequal).symm
  -- The integer is rounded to the number and is equal to it then.
  have hsame : equal.holds roundedDocument = true := by
    rw [hfilter, holds, hat]
    decide
  refine ⟨hb, equal, ordered, ?_, fun c => ?_, hsame, ?_, ?_, ?_⟩
  · rw [hread hname, hequal]
  · rw [hread hname, hordered]
  · rw [hgte, hsame, Bool.or_true]
  · rw [hlte, hsame, Bool.or_true]
  · have harray : ∀ items, Value.double ⟨0x4340000000000000⟩ ≠ .array items := by
      intro items h
      cases h
    rw [hcount _ hat harray]
    decide

end Filter

end DocQuery
