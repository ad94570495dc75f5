import DocQuery.Proofs.Filter.Entries
import DocQuery.Proofs.Value.Overlay
import DocQuery.Request.Basic
import Mathlib.Data.List.Basic
import Mathlib.Tactic.Common

/-!
# Filters of Requests

A request cannot be wrong. Whatever its parameters are, its filters can be
read, and no value that it gives can pass for an operator: a filter compares
its field with a single value or has one comparison with a bound.

A filter depends on the values of its own parameter only. So a parameter whose
filter is overridden has no effect, and neither has leaving it out.

The values are read by a coercion that never gives a document, and a comparison
is written as a document of one operator by the program and not by the client.
Therefore the reader of filters, which could fail on any other document, takes
one of two of its branches only: a value to be equal to, or one known operator.

What a filter depends on is used in both directions: to override a parameter of
the client, and to leave out those that it must not use. Both are the same
change of one parameter, and two lists of parameters count as the same up to it
if they are equal without that parameter.

## Main definitions

* `Filter.LooksAt`: A filter on what is at a path.
* `Request.Plain`: A value that is no document.
* `Params.without`, `replace`: Parameters of which one is changed.

## Theorems

* `Request.readable_filters`: The filters of a request can be read.
* `Request.get?_filters_of_ne`: A filter depends on its own parameter only.
* `ListRequest.ofParams_of_get?_eq`, `ofParams_of_without_eq`: What a change of
  filters leaves as it is.
-/

namespace DocQuery

/-- Does a filter look at nothing but what is at a path? -/
def Filter.LooksAt (f : Filter) (path : Path) : Prop :=
  ∀ d e : Document, d.at? path = e.at? path → f.holds d = f.holds e

namespace Request

/-- A value that is no document. -/
def Plain (v : Value) : Prop :=
  ∀ fields, v ≠ .document fields

/-- Where two readings give no documents, neither does the one tried after the
    other. -/
theorem plain_orElse (a b : Option Value) (ha : ∀ v, a = some v → Plain v)
    (hb : ∀ v, b = some v → Plain v) (v : Value) (h : (a <|> b) = some v) : Plain v := by
  rcases a with _ | w
  · exact hb v h
  · exact ha v h

/-- A single value that a text stands for is no document. -/
theorem plain_scalar? (s : List Char) (v : Value) (h : Coercion.scalar? s = some v) :
    Plain v := by
  refine plain_orElse _ _ ?_ (plain_orElse _ _ (plain_orElse _ _ ?_ ?_) ?_) v h
  · intro w hw fields
    unfold Coercion.truth? at hw
    split at hw
    · cases hw
      simp
    · split at hw
      · cases hw
        simp
      · cases hw
  · intro w hw fields
    rcases Option.map_eq_some_iff.mp hw with ⟨n, -, rfl⟩
    simp
  · intro w hw fields
    rcases Option.map_eq_some_iff.mp hw with ⟨x, -, rfl⟩
    simp
  · intro w hw fields
    rcases Option.map_eq_some_iff.mp hw with ⟨id, -, rfl⟩
    simp

theorem readField_plain (name : String) (v : Value) (h : Plain v) :
    Filter.readField name v = .ok (.equals (Path.ofString name) v) := by
  cases v with
  | document fields => exact absurd rfl (h fields)
  | _ => rfl

/-- An operator for a comparison is read as that comparison. -/
theorem readCondition_key (path : Path) (c : Comparator) (bound : Value) :
    Filter.readCondition path c.key bound = .ok (.compares c path bound) := by
  have hkey := (Comparator.ofKey?_eq_some_iff c.key c).mpr rfl
  have hother : ∀ name, (Comparator.ofKey? name).isNone → c.key ≠ name := by
    rintro name hname rfl
    rw [hkey] at hname
    exact Bool.false_ne_true hname
  unfold Filter.readCondition
  split
  -- Every other condition has a name of its own.
  all_goals first
    | exact absurd (by assumption) (hother "$eq" (by decide))
    | exact absurd (by assumption) (hother "$ne" (by decide))
    | exact absurd (by assumption) (hother "$in" (by decide))
    | exact absurd (by assumption) (hother "$exists" (by decide))
    | exact absurd (by assumption) (hother "$options" (by decide))
    | rw [hkey]

/-- A comparison of a request is read as itself. -/
theorem readField_comparison (name : String) (c : Comparison) :
    Filter.readField name (.document c.document) =
      .ok (.compares c.comparator (Path.ofString name) c.bound) := by
  rcases c with ⟨c, bound⟩
  have hmarked : Filter.isOperator c.key = true := by
    rw [Filter.isOperator, Comparator.toList_key]
    rfl
  -- There is no pattern among the conditions, which would be read together with its
  -- options.
  have hpattern : Document.contains [(c.key, bound)] "$regex" = false := by
    cases c with
    | _ => simp [Document.contains, Document.get?, Comparator.key]
  have hmapM : ([(c.key, bound)] : Document).mapM
      (fun p => Filter.readCondition (Path.ofString name) p.1 p.2) =
        .ok [.compares c (Path.ofString name) bound] := by
    rw [List.mapM_cons, readCondition_key]
    rfl
  rw [Filter.readField, Comparison.document, Filter.isConditions, if_pos hmarked,
    Filter.readConditions, hpattern, if_neg Bool.false_ne_true, hmapM]
  rfl

theorem readEntry_of_isFilterName (name : String) (v : Value) (h : isFilterName name = true) :
    Filter.readEntry (name, v) = Filter.readField name v := by
  unfold isFilterName at h
  rw [Bool.and_eq_true, Bool.and_eq_true, Bool.not_eq_true', Bool.not_eq_true'] at h
  exact Filter.readEntry_of_not_isOperator name v h.1.2

/-- A filter of a request can be read, whatever the text of the parameter is,
    and looks at nothing but the field of the parameter. -/
theorem readEntry_filterValue (name : String) (s : List Char) (h : isFilterName name = true) :
    ∃ f, Filter.readEntry (name, filterValue s) = .ok f ∧ f.LooksAt (Path.ofString name) := by
  have hequals : ∀ v, Filter.LooksAt (.equals (Path.ofString name) v) (Path.ofString name) := by
    intro v d e hat
    rw [Filter.holds, Filter.holds, hat]
  rw [readEntry_of_isFilterName name _ h]
  unfold filterValue
  -- The branches are those of the value: a text, a comparison, or what the text stands
  -- for.
  rcases hscalar : Coercion.scalar? s with _ | v
  · rcases (if s.contains ',' then Comparison.read? s else none) with _ | c
    · exact ⟨_, readField_plain name _ fun fields => by simp [Coercion.text], hequals _⟩
    · refine ⟨_, readField_comparison name c, ?_⟩
      intro d e hat
      rw [Filter.holds, Filter.holds, hat]
  · exact ⟨_, readField_plain name v (plain_scalar? s v hscalar), hequals v⟩

theorem distinct_filters (params : Params) : (filters params).Distinct :=
  Document.distinct_ofPairs _

/-- A filter stands under a name for filters and comes from a text. -/
theorem mem_filters (params : Params) (p : String × Value) (h : p ∈ filters params) :
    isFilterName p.1 = true ∧ ∃ s, p.2 = filterValue s := by
  unfold filters Document.ofPairs at h
  rcases Document.mem_of_mem_overlay _ _ _ h with h | h
  · cases h
  · rcases List.mem_map.mp h with ⟨q, hq, rfl⟩
    exact ⟨(List.mem_filter.mp hq).2, _, rfl⟩

/-- The filters of a request can be read. -/
theorem readable_filters (params : Params) : Filter.Readable (filters params) := by
  rw [Filter.readable_iff]
  rintro ⟨name, v⟩ hp
  rcases mem_filters params _ hp with ⟨hname, s, rfl⟩
  exact (readEntry_filterValue name s hname).imp fun _ h => h.1

/-- A filter of a request holds or not by what is in its field. -/
theorem entryHolds_congr (params : Params) (p : String × Value) (hp : p ∈ filters params)
    (d e : Document) (hat : d.at? (Path.ofString p.1) = e.at? (Path.ofString p.1)) :
    Filter.entryHolds d p = Filter.entryHolds e p := by
  rcases p with ⟨name, v⟩
  rcases mem_filters params _ hp with ⟨hname, s, rfl⟩
  rcases readEntry_filterValue name s hname with ⟨f, hread, hlooks⟩
  unfold Filter.entryHolds
  rw [hread]
  exact hlooks d e hat

end Request

namespace Document

/-- What an overlay has under a key depends on that key alone. -/
theorem get?_overlay_congr (d e pairs : Document) (key : String) (h : get? d key = get? e key) :
    get? (overlay d pairs) key = get? (overlay e pairs) key := by
  induction pairs generalizing d e with
  | nil => exact h
  | cons p pairs ih =>
      rw [overlay_cons, overlay_cons]
      apply ih
      by_cases hp : p.1 = key
      · rw [hp, get?_insert_self, get?_insert_self]
      · rw [get?_insert_of_ne d _ _ _ (Ne.symm hp), get?_insert_of_ne e _ _ _ (Ne.symm hp), h]

/-- Entries of another key may be left out of an overlay. -/
theorem get?_overlay_filter (d pairs : Document) (key other : String) (h : other ≠ key) :
    get? (overlay d (pairs.filter fun p => p.1 ≠ key)) other = get? (overlay d pairs) other := by
  induction pairs generalizing d with
  | nil => rfl
  | cons p pairs ih =>
      by_cases hp : p.1 = key
      · -- What is left out is written before the others, which find the same under the other
        -- key.
        rw [List.filter_cons_of_neg (by simpa using hp), overlay_cons, ih]
        apply get?_overlay_congr
        rw [hp, get?_insert_of_ne d key other p.2 h]
      · rw [List.filter_cons_of_pos (by simpa using hp), overlay_cons, overlay_cons, ih]

end Document

namespace Params

/-- The parameters without the one of a name. -/
def without (params : Params) (name : String) : Params :=
  params.filter fun p => p.1 ≠ name

/-- The parameters with other values for the one of a name. -/
def replace (params : Params) (name : String) (values : List String) : Params :=
  params.map fun p => if p.1 = name then (name, values) else p

theorem values?_without (params : Params) (name other : String) (h : other ≠ name) :
    values? (without params name) other = values? params other := by
  induction params with
  | nil => rfl
  | cons p params ih =>
      rcases p with ⟨k, values⟩
      unfold without at ih ⊢
      by_cases hk : k = name
      · rw [List.filter_cons_of_neg (by simpa using hk), ih, values?, if_neg (hk ▸ Ne.symm h)]
      · rw [List.filter_cons_of_pos (by simpa using hk), values?, values?, ih]

theorem without_replace (params : Params) (name : String) (values : List String) :
    without (replace params name values) name = without params name := by
  induction params with
  | nil => rfl
  | cons p params ih =>
      unfold without replace at ih ⊢
      rw [List.map_cons]
      by_cases hp : p.1 = name
      · rw [if_pos hp, List.filter_cons_of_neg (by simp),
          List.filter_cons_of_neg (by simpa using hp), ih]
      · rw [if_neg hp, List.filter_cons_of_pos (by simpa using hp),
          List.filter_cons_of_pos (by simpa using hp), ih]

theorem without_without (params : Params) (name : String) :
    without (without params name) name = without params name := by
  unfold without
  rw [List.filter_filter]
  simp only [Bool.and_self]

theorem values?_of_without_eq (params other : Params) (name : String)
    (hsame : params.without name = other.without name) (k : String) (h : k ≠ name) :
    values? params k = values? other k := by
  rw [← values?_without params name k h, hsame, values?_without other name k h]

end Params

namespace Request

/-- A filter depends on its own parameter only. -/
theorem get?_filters_of_ne (params other : Params) (name : String)
    (hsame : params.without name = other.without name) (k : String) (h : k ≠ name) :
    (filters params).get? k = (filters other).get? k := by
  -- To leave a parameter out of the filters is to leave its filter out.
  have hpairs : ∀ params : Params, ((params.without name).filter fun p => isFilterName p.1).map
      (fun p => (p.1, filterValue (Params.join p.2))) =
        ((params.filter fun p => isFilterName p.1).map
          fun p => (p.1, filterValue (Params.join p.2))).filter fun p => p.1 ≠ name := by
    intro params
    rw [List.filter_map, Params.without, List.filter_comm]
    rfl
  unfold filters Document.ofPairs
  rw [← Document.get?_overlay_filter [] _ name k h, ← hpairs params, hsame, hpairs other,
    Document.get?_overlay_filter [] _ name k h]

end Request

/-- Requests whose parameters agree on all names with a meaning of their own
    differ in their filters only. -/
theorem ListRequest.ofParams_of_get?_eq (params other : Params)
    (h : ∀ k ∈ reservedNames, params.get? k = other.get? k) :
    ofParams params = { ofParams other with filters := Request.filters params } := by
  simp only [ofParams, Request.fields, Request.sort, Request.listed, h "page" (by decide),
    h "limit" (by decide), h "fields" (by decide), h "sort" (by decide),
    h "search" (by decide), h "populate" (by decide)]

/-- Requests whose parameters differ in a filter differ in their filters only. -/
theorem ListRequest.ofParams_of_without_eq (params other : Params) (name : String)
    (h : Request.isFilterName name = true) (hsame : params.without name = other.without name) :
    ofParams params = { ofParams other with filters := Request.filters params } := by
  have hreserved : ∀ k ∈ reservedNames, k ≠ name := by
    rintro k hk rfl
    unfold Request.isFilterName isReserved at h
    rw [List.contains_iff_mem.mpr hk, Bool.not_true, Bool.and_false] at h
    exact Bool.false_ne_true h
  apply ofParams_of_get?_eq
  intro k hk
  unfold Params.get?
  rw [Params.values?_of_without_eq params other name hsame k (hreserved k hk)]

end DocQuery
