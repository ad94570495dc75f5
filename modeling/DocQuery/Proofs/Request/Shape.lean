import DocQuery.Proofs.Request.Order
import DocQuery.Proofs.Request.Parameters

/-!
# The Shape of Requests

What can be said of every request for a list, whatever the parameters are. Its
filters are on the fields that are named and compare each of them with a single
value or with a bound. Its names are plain, each stands once, and they come in
the order in which they are first named. Its sort keys keep the first place and
take the last direction of a field that is named again. Its counts are positive,
and what is skipped stays within 64 bits.

So a pipeline can be made of a request without looking at it again: nothing in
it can pass for an operator, clash with another part, or be out of range.

The statement is made on names with values, as they stand in a query string, and
not on grouped parameters. So it says of every request that can be sent what
becomes of it, with all repetitions: the names that are kept are first
occurrences in all values of a parameter, one value after the other, and a sort
key is the last one on its field in all of them.

## Main definitions

* `Request.Bound`, `Condition`: The values in a filter.
* `Request.keysUnder`: The sort keys that the values of a parameter name.
* `Request.askedKeys`: The sort keys that a request names.
* `ListRequest.WellFormed`: The shape of a request.

## Theorems

* `Request.condition_filterValue`: The value of every filter.
* `SortKey.fields_foldl_add`, `getLast?_of_mem_foldl_add`: The order and the
  directions of sort keys.
* `ListRequest.wellFormed_ofPairs`: The shape of every request.
-/

namespace DocQuery

open Number

namespace Request

/-- A value that a field can be compared with by order: an integer, an instant,
    a finite number or a text. -/
inductive Bound : Value → Prop
  | integer (n : Int64) : Bound (.int64 n)
  | instant (millis : Int64) : Bound (.dateTime millis)
  | real (x : Binary64) (h : x.isFinite = true) : Bound (.double x)
  | text (s : String) : Bound (.string s)

/-- A value that can stand in a filter of a request: a single value, or one
    comparison with a bound. -/
inductive Condition : Value → Prop
  | truth (b : Bool) : Condition (.boolean b)
  | integer (n : Int64) : Condition (.int64 n)
  | real (x : Binary64) (h : x.isFinite = true) : Condition (.double x)
  | identifier (id : ObjectId) : Condition (.objectId id)
  | text (s : String) : Condition (.string s)
  | comparison (c : Comparator) (bound : Value) (h : Bound bound) :
      Condition (.document [(c.key, bound)])

/-- The sort keys in the values of a parameter, one value after the other. -/
def keysUnder (pairs : List (String × String)) (name : String) : List SortKey :=
  (valuesOf pairs name).flatMap fun value => (names value.toList).filterMap SortKey.read?

/-- The sort keys that a request names, or the default order if there are
    none. -/
def askedKeys (pairs : List (String × String)) : List SortKey :=
  if keysUnder pairs "sort" = [] then defaultSort else keysUnder pairs "sort"

end Request

/-- The shape of a request for a list that is made of names with values. -/
structure ListRequest.WellFormed (pairs : List (String × String)) (r : ListRequest) : Prop where
  /-- The filters are on the names that are not empty, have no meaning of their
      own and do not start with a dollar sign. -/
  filter_names : FirstOccurrences
    ((pairs.map Prod.fst).filter fun name =>
      name ≠ "" ∧ name ∉ reservedNames ∧ name.toList.head? ≠ some '$') r.filters.keys
  filter_values : ∀ p ∈ r.filters, Request.Condition p.2
  page_pos : ∀ page, r.page = some page → 1 ≤ page
  limit_pos : ∀ limit, r.limit = some limit → 1 ≤ limit
  skip_of_page : ∀ page limit, r.page = some page → r.limit = some limit →
    r.skip = min ((page - 1) * limit) (2 ^ 64 - 1)
  skip_of_none : r.page = none ∨ r.limit = none → r.skip = 0
  field_names : FirstOccurrences (Request.namesIn (valuesOf pairs "fields")) r.fields
  field_plain : ∀ field ∈ r.fields, field ≠ "" ∧ ',' ∉ field.toList ∧
    ∀ c ∈ field.toList, Text.isBlank c = false
  field_entries : fieldsDocument r.fields = r.fields.map fun field => (field, .int32 1)
  populate_names : FirstOccurrences (Request.namesIn (valuesOf pairs "populate")) r.populate
  sort_ne_nil : r.sort ≠ []
  sort_named : ∀ key ∈ r.sort, key.field ≠ ""
  sort_fields : FirstOccurrences ((Request.askedKeys pairs).map SortKey.field)
    (r.sort.map SortKey.field)
  sort_last : ∀ key ∈ r.sort,
    ((Request.askedKeys pairs).filter fun k => k.field = key.field).getLast? = some key
  sort_entries : SortKey.document r.sort = r.sort.map fun key =>
    (key.field, match key.direction with
      | .ascending => .int32 1
      | .descending => .int32 (-1))

namespace Request

theorem isFinite_of_readFinite? (s : List Char) (x : Binary64)
    (h : Binary64.readFinite? s = some x) : x.isFinite = true :=
  (Option.filter_eq_some_iff.mp h).2

/-- Every bound of a range is an integer, an instant, a finite number or a
    text. -/
theorem bound_operand (s : List Char) : Bound (Coercion.operand s) := by
  unfold Coercion.operand
  rcases hread : (Coercion.integer? s <|> Coercion.date? s <|> Coercion.real? s) with _ | v
  · exact .text _
  rw [Option.getD_some]
  rw [Option.orElse_eq_some, Option.orElse_eq_some] at hread
  rcases hread with hinteger | ⟨-, hdate | ⟨-, hreal⟩⟩
  · rcases Option.map_eq_some_iff.mp hinteger with ⟨n, -, rfl⟩
    exact .integer n
  · rcases Option.map_eq_some_iff.mp hdate with ⟨n, -, rfl⟩
    exact .instant _
  · rcases Option.map_eq_some_iff.mp hreal with ⟨x, hx, rfl⟩
    exact .real x (isFinite_of_readFinite? s x hx)

theorem condition_scalar? (s : List Char) (v : Value) (h : Coercion.scalar? s = some v) :
    Condition v := by
  unfold Coercion.scalar? Coercion.number? at h
  rw [Option.orElse_eq_some, Option.orElse_eq_some, Option.orElse_eq_some] at h
  rcases h with htruth | ⟨-, (hinteger | ⟨-, hreal⟩) | ⟨-, hid⟩⟩
  · unfold Coercion.truth? at htruth
    split at htruth
    · cases htruth
      exact .truth true
    · split at htruth
      · cases htruth
        exact .truth false
      · cases htruth
  · rcases Option.map_eq_some_iff.mp hinteger with ⟨n, -, rfl⟩
    exact .integer n
  · rcases Option.map_eq_some_iff.mp hreal with ⟨x, hx, rfl⟩
    exact .real x (isFinite_of_readFinite? s x hx)
  · rcases Option.map_eq_some_iff.mp hid with ⟨id, -, rfl⟩
    exact .identifier id

theorem bound_of_read? (s : List Char) (c : Comparison) (h : Comparison.read? s = some c) :
    Bound c.bound := by
  rcases Option.bind_eq_some_iff.mp h with ⟨⟨head, operand⟩, -, h⟩
  rcases Option.bind_eq_some_iff.mp h with ⟨comparator, -, h⟩
  cases h
  exact bound_operand _

/-- Every text stands for a value that a filter can have. -/
theorem condition_filterValue (s : List Char) : Condition (filterValue s) := by
  unfold filterValue
  rcases hscalar : Coercion.scalar? s with _ | v
  · -- What is no single value is a comparison or stays a text.
    rcases hread : (if s.contains ',' then Comparison.read? s else none) with _ | c
    · exact .text _
    · split at hread
      · exact .comparison c.comparator c.bound (bound_of_read? s c hread)
      · cases hread
  · exact condition_scalar? s v hscalar

theorem isFilterName_iff (name : String) :
    isFilterName name = true ↔
      name ≠ "" ∧ name ∉ reservedNames ∧ name.toList.head? ≠ some '$' := by
  unfold isFilterName isReserved Filter.isOperator
  rw [Bool.and_eq_true, Bool.and_eq_true, Bool.not_eq_true', Bool.not_eq_true', Bool.not_eq_true',
    String.isEmpty_eq_false_iff, beq_eq_false_iff_ne, ← Bool.not_eq_true, List.contains_iff_mem]
  tauto

theorem one_le_of_positive? (s : List Char) (n : Nat) (h : positive? s = some n) : 1 ≤ n := by
  unfold positive? at h
  simp only at h
  split at h
  · rename_i hrange
    cases h
    exact hrange.1
  · cases h

/-- A parameter for names has the names in its values, each once. -/
theorem distinct_listed_ofPairs (pairs : List (String × String)) (name : String) :
    distinct (listed (Params.ofPairs pairs) name) = (namesIn (valuesOf pairs name)).eraseDups := by
  rw [distinct, listed_ofPairs, List.map_flatMap]
  rfl

/-- A name is not empty and has neither commas nor blanks. -/
theorem plain_of_mem_namesIn (values : List String) (token : String)
    (h : token ∈ namesIn values) :
    token ≠ "" ∧ ',' ∉ token.toList ∧ ∀ c ∈ token.toList, Text.isBlank c = false := by
  rcases List.mem_flatMap.mp h with ⟨value, -, hvalue⟩
  rcases List.mem_map.mp hvalue with ⟨part, hpart, rfl⟩
  have hsep := Text.not_sep_of_mem_tokens _ _ part hpart
  rw [String.toList_ofList]
  refine ⟨?_, ?_, ?_⟩
  · intro hempty
    have hnil : part = [] := String.ofList_eq_empty_iff.mp hempty
    subst hnil
    exact absurd (List.mem_filter.mp hpart).2 (by decide)
  · intro hcomma
    exact absurd (hsep ',' hcomma) (by decide)
  · intro c hc
    exact (Bool.or_eq_false_iff.mp (hsep c hc)).2

end Request

namespace SortKey

/-- A key on a known field adds no field, and any other one adds its field at
    the end. -/
theorem fields_add (keys : List SortKey) (key : SortKey) :
    (add keys key).map field =
      if key.field ∈ keys.map field then keys.map field else keys.map field ++ [key.field] := by
  induction keys with
  | nil => rfl
  | cons k keys ih =>
      rw [add]
      by_cases hk : k.field = key.field
      · rw [if_pos hk, List.map_cons, List.map_cons, hk, if_pos List.mem_cons_self]
      · rw [if_neg hk, List.map_cons, List.map_cons, ih]
        by_cases hmem : key.field ∈ keys.map field
        · rw [if_pos hmem, if_pos (List.mem_cons_of_mem _ hmem)]
        · rw [if_neg hmem, if_neg (by simp [Ne.symm hk, hmem]), List.cons_append]

/-- The fields to sort by come in the order in which they are first named. -/
theorem fields_foldl_add (keys : List SortKey) :
    (keys.foldl add []).map field = (keys.map field).eraseDups :=
  map_foldl_eraseDups (List.map field) field add fields_add [] rfl keys

theorem foldl_add_eq_nil_iff (keys : List SortKey) : keys.foldl add [] = [] ↔ keys = [] := by
  constructor
  · intro h
    have hfields := fields_foldl_add keys
    rw [h] at hfields
    rcases keys with _ | ⟨key, keys⟩
    · rfl
    · -- The first key is among those that are kept.
      rw [List.map_cons, List.eraseDups_cons] at hfields
      cases hfields
  · rintro rfl
    rfl

/-- After a key is added, it is the only one on its field. -/
theorem mem_add (keys : List SortKey) (hkeys : Separate keys) (key other : SortKey)
    (h : other ∈ add keys key) : other = key ∨ other ∈ keys ∧ other.field ≠ key.field := by
  induction keys with
  | nil => exact Or.inl (List.mem_singleton.mp h)
  | cons k keys ih =>
      unfold Separate at hkeys
      rw [List.map_cons, List.nodup_cons] at hkeys
      rw [add] at h
      by_cases hk : k.field = key.field
      · -- The key takes the place of this one, and no other is on the same field.
        rw [if_pos hk] at h
        rcases List.mem_cons.mp h with rfl | h
        · exact Or.inl rfl
        · refine Or.inr ⟨List.mem_cons_of_mem k h, ?_⟩
          intro hsame
          rw [← hk] at hsame
          exact hkeys.1 (hsame ▸ List.mem_map_of_mem h)
      · rw [if_neg hk] at h
        rcases List.mem_cons.mp h with rfl | h
        · exact Or.inr ⟨List.mem_cons_self, hk⟩
        · exact (ih hkeys.2 h).imp_right fun h => ⟨List.mem_cons_of_mem k h.1, h.2⟩

/-- A key that is kept is the last one on its field. -/
theorem getLast?_of_mem_foldl_add (keys : List SortKey) (key : SortKey)
    (h : key ∈ keys.foldl add []) :
    (keys.filter fun k => k.field = key.field).getLast? = some key := by
  -- One more key takes the place of those on its field and leaves the last one of every other.
  induction keys using List.reverseRecOn with
  | nil => cases h
  | append_singleton keys last ih =>
      rw [List.foldl_concat] at h
      have hseparate : Separate (keys.foldl add []) := by
        unfold Separate
        rw [fields_foldl_add]
        exact (firstOccurrences_eraseDups _).nodup
      rw [List.filter_append]
      rcases mem_add _ hseparate last key h with rfl | ⟨hmem, hne⟩
      · rw [List.filter_cons_of_pos (by simp), List.filter_nil, List.getLast?_concat]
      · rw [List.filter_cons_of_neg (by simpa using Ne.symm hne), List.filter_nil,
          List.append_nil]
        exact ih hmem

theorem field_ne_of_read? (s : List Char) (key : SortKey) (h : read? s = some key) :
    key.field ≠ "" := by
  unfold read? at h
  split at h
  -- A key is only read where a field is left.
  · cases h
  · cases h
  · rename_i field hfield
    cases h
    intro hempty
    have hnil : field = [] := String.ofList_eq_empty_iff.mp hempty
    subst hnil
    exact hfield rfl
  · rename_i hnil _ _
    cases h
    intro hempty
    exact hnil (String.ofList_eq_empty_iff.mp hempty)

end SortKey

namespace Request

theorem collect_ofPairs (pairs : List (String × String)) :
    SortKey.collect (listed (Params.ofPairs pairs) "sort") =
      (keysUnder pairs "sort").foldl SortKey.add [] := by
  rw [SortKey.collect, listed_ofPairs, List.filterMap_flatMap]
  rfl

/-- The order that a request asks for is made of the keys that it names. -/
theorem sort_ofPairs (pairs : List (String × String)) :
    sort (Params.ofPairs pairs) = (askedKeys pairs).foldl SortKey.add [] := by
  unfold sort askedKeys
  rw [collect_ofPairs]
  by_cases hkeys : keysUnder pairs "sort" = []
  · rw [if_pos hkeys, hkeys]
    rfl
  · -- Some key is named, and a key that is collected is not lost.
    have hne : (keysUnder pairs "sort").foldl SortKey.add [] ≠ [] := by
      rw [ne_eq, SortKey.foldl_add_eq_nil_iff]
      exact hkeys
    rw [if_neg hkeys]
    split
    · rename_i hnil
      exact absurd hnil hne
    · rfl

theorem askedKeys_ne_nil (pairs : List (String × String)) : askedKeys pairs ≠ [] := by
  unfold askedKeys
  by_cases hkeys : keysUnder pairs "sort" = []
  · rw [if_pos hkeys]
    exact List.cons_ne_nil _ _
  · rw [if_neg hkeys]
    exact hkeys

theorem field_ne_of_mem_askedKeys (pairs : List (String × String)) (key : SortKey)
    (h : key ∈ askedKeys pairs) : key.field ≠ "" := by
  unfold askedKeys at h
  by_cases hkeys : keysUnder pairs "sort" = []
  · rw [if_pos hkeys, defaultSort, List.mem_singleton] at h
    rw [h]
    decide
  · rw [if_neg hkeys] at h
    rcases List.mem_flatMap.mp h with ⟨value, -, hvalue⟩
    rcases List.mem_filterMap.mp hvalue with ⟨token, -, htoken⟩
    exact SortKey.field_ne_of_read? token key htoken

end Request

theorem ListRequest.fields_ofPairs (pairs : List (String × String)) :
    (ofParams (Params.ofPairs pairs)).fields =
      (Request.namesIn (valuesOf pairs "fields")).eraseDups :=
  Request.distinct_listed_ofPairs pairs "fields"

theorem ListRequest.populate_ofPairs (pairs : List (String × String)) :
    (ofParams (Params.ofPairs pairs)).populate =
      (Request.namesIn (valuesOf pairs "populate")).eraseDups :=
  Request.distinct_listed_ofPairs pairs "populate"

/-- Nothing is skipped unless both the page and the limit are known. -/
theorem ListRequest.skip_eq_zero (r : ListRequest) (h : r.page = none ∨ r.limit = none) :
    r.skip = 0 := by
  unfold skip
  rcases h with hpage | hlimit
  · rw [hpage]
  · rw [hlimit]
    split
    · rename_i hsome
      cases hsome
    · rfl

/-- Every request for a list is well formed, whatever names and values it is
    made of. -/
theorem ListRequest.wellFormed_ofPairs (pairs : List (String × String)) :
    (ofParams (Params.ofPairs pairs)).WellFormed pairs where
  filter_names := by
    -- What the statement asks of a name is what a filter name is tested for.
    have hnames : (fun name : String => decide (name ≠ "" ∧ name ∉ reservedNames ∧
        name.toList.head? ≠ some '$')) = Request.isFilterName := by
      funext name
      rw [Bool.eq_iff_iff, decide_eq_true_eq, Request.isFilterName_iff]
    rw [hnames, ofParams, Request.keys_filters_ofPairs]
    exact firstOccurrences_eraseDups _
  filter_values := by
    intro p hp
    rcases Request.mem_filters _ p hp with ⟨-, s, hs⟩
    rw [hs]
    exact Request.condition_filterValue s
  page_pos := by
    intro page hpage
    rcases Option.bind_eq_some_iff.mp hpage with ⟨text, -, htext⟩
    exact Request.one_le_of_positive? text page htext
  limit_pos := by
    intro limit hlimit
    rcases Option.bind_eq_some_iff.mp hlimit with ⟨text, -, htext⟩
    exact Request.one_le_of_positive? text limit htext
  skip_of_page := by
    intro page limit hpage hlimit
    unfold skip
    rw [hpage, hlimit]
    rfl
  skip_of_none := skip_eq_zero _
  field_names := by
    rw [fields_ofPairs]
    exact firstOccurrences_eraseDups _
  field_plain := by
    intro field hfield
    rw [fields_ofPairs, List.mem_eraseDups] at hfield
    exact Request.plain_of_mem_namesIn _ field hfield
  field_entries := rfl
  populate_names := by
    rw [populate_ofPairs]
    exact firstOccurrences_eraseDups _
  sort_ne_nil := by
    have hsort := Request.sort_ofPairs pairs
    rw [ofParams, hsort, ne_eq, SortKey.foldl_add_eq_nil_iff]
    exact Request.askedKeys_ne_nil pairs
  sort_named := by
    intro key hkey
    rw [ofParams, Request.sort_ofPairs] at hkey
    have hlast := SortKey.getLast?_of_mem_foldl_add _ key hkey
    exact Request.field_ne_of_mem_askedKeys pairs key
      (List.mem_of_mem_filter (List.mem_of_getLast? hlast))
  sort_fields := by
    rw [ofParams, Request.sort_ofPairs, SortKey.fields_foldl_add]
    exact firstOccurrences_eraseDups _
  sort_last := by
    intro key hkey
    rw [ofParams, Request.sort_ofPairs] at hkey
    exact SortKey.getLast?_of_mem_foldl_add _ key hkey
  sort_entries := by
    -- No two keys are on the same field, so none replaces another in the document.
    have hdistinct : Document.Distinct ((ofParams (Params.ofPairs pairs)).sort.map fun key =>
        (key.field, key.direction.value)) := by
      unfold Document.Distinct Document.keys
      rw [List.map_map]
      exact Request.separate_sort _
    rw [SortKey.document, Document.ofPairs_of_distinct _ hdistinct]
    rfl

example : (ListRequest.ofParams (Params.ofPairs [("sort", "-a,,b"), ("sort", "- a")])).sort =
    [⟨"a", .ascending⟩, ⟨"b", .ascending⟩] := by
  decide

end DocQuery
