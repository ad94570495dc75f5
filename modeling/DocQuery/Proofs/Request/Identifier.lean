import DocQuery.Proofs.Number.Numeral
import DocQuery.Proofs.Request.Query
import DocQuery.Proofs.Value.Identifier

/-!
# Identifiers in Requests

A text of 24 hexadecimal digits that is the value of a parameter stands for the
identifier with these digits, unless it is a numeral: numbers come first. A
query string that asks for an identifier has it as its only filter, whatever
fields and relations it asks for besides.

The readings are tried in a fixed order, with numbers before identifiers, and
both may be written in hexadecimal digits alone. So an exact description has to
say which texts of 24 such digits are numerals: those with decimal digits only,
and those in which a single letter e separates a number from its exponent and
the whole is not too large for a double. The description is `IsNumeral`, which
is defined on the text and does not mention how a number is read.

## Main definitions

* `identifierQuery`: A query string that asks for an identifier.
* `ListRequest.identified`: A request for an identifier.

## Theorems

* `Coercion.number?_eq_none_iff`: The hexadecimal texts that are no numbers.
* `Coercion.scalar?_eq_objectId_iff`, `Request.filterValue_eq_objectId_iff`: The
  texts that stand for identifiers.
* `Params.parse_literal_append`: One more parameter in front of a query string.
* `ListRequest.ofParams_identifierQuery`: The request that a query string for an
  identifier stands for.
-/

namespace DocQuery

open Number

namespace Coercion

/-- An integer of a hexadecimal text is a numeral, as it is not too large. -/
theorem isNumeral_of_integer?_eq_some (s : List Char) (h : s.all Text.Hex.isDigit = true)
    (v : Value) (hv : integer? s = some v) : IsNumeral s := by
  rcases Option.map_eq_some_iff.mp hv with ⟨n, hn, -⟩
  rcases Option.bind_eq_some_iff.mp hn with ⟨m, hm, hrange⟩
  rw [readInt?_of_hex s h] at hm
  rcases Option.map_eq_some_iff.mp hm with ⟨k, hk, rfl⟩
  rcases (readNat?_eq_some_iff s k).mp hk with ⟨hnil, hdigits, rfl⟩
  refine ⟨s, [], 0, (List.append_nil s).symm, hnil, hdigits, .absent, ?_⟩
  -- An integer of 64 bits is far below the numbers that a double cannot hold.
  unfold Form.toInt64? at hrange
  split at hrange
  · rename_i hbounds
    have hmax : Int64.maxValue.toInt < ((2 ^ 63 : Nat) : Int) := by decide
    have hlt := Int.ofNat_lt.mp (Int.lt_of_le_of_lt hbounds.2 hmax)
    rw [pow_zero, Nat.mul_one]
    exact Nat.lt_of_lt_of_le hlt (Binary64.pow_le_overflow 63 (by decide))
  · cases hrange

/-- A hexadecimal text is no number exactly if it is no numeral. -/
theorem number?_eq_none_iff (s : List Char) (h : s.all Text.Hex.isDigit = true) :
    number? s = none ↔ ¬IsNumeral s := by
  unfold number?
  rw [Option.orElse_eq_none, ← isSome_readFinite?_iff s h, real?, Option.map_eq_none_iff,
    Bool.not_eq_true, Option.isSome_eq_false_iff, Option.isNone_iff_eq_none]
  -- Integers are read as finite numbers too, so it suffices that there is none of those.
  refine and_iff_right_of_imp fun hreal => ?_
  rcases hinteger : integer? s with _ | v
  · rfl
  · have hnumeral := isNumeral_of_integer?_eq_some s h v hinteger
    rw [← isSome_readFinite?_iff s h, hreal] at hnumeral
    cases hnumeral

theorem number?_ne_objectId (s : List Char) (id : ObjectId) : number? s ≠ some (.objectId id) := by
  unfold number? integer? real?
  intro h
  rcases hinteger : (readInt? s).bind Form.toInt64? with _ | n
  · rw [hinteger] at h
    rcases Option.map_eq_some_iff.mp h with ⟨x, -, hx⟩
    cases hx
  · rw [hinteger] at h
    cases h

theorem truth?_of_read?_eq_some (s : List Char) (id : ObjectId) (h : ObjectId.read? s = some id) :
    truth? s = none := by
  have hlength := (ObjectId.length_and_isDigit_of_read?_eq_some s id h).1
  unfold truth?
  rw [if_neg, if_neg]
  · rintro rfl
    exact absurd hlength (by decide)
  · rintro rfl
    exact absurd hlength (by decide)

/-- The text of an identifier stands for it exactly if it is no numeral. -/
theorem scalar?_eq_objectId_iff (s : List Char) (id : ObjectId) (h : ObjectId.read? s = some id) :
    scalar? s = some (.objectId id) ↔ ¬IsNumeral s := by
  rw [← number?_eq_none_iff s (ObjectId.length_and_isDigit_of_read?_eq_some s id h).2]
  -- A text of this length names no truth value, so only a number may come before the
  -- identifier.
  unfold scalar? objectId?
  rw [truth?_of_read?_eq_some s id h, h]
  rcases hnumber : number? s with _ | v
  · exact iff_of_true rfl rfl
  · exact iff_of_false (fun hv => number?_ne_objectId s id (hnumber.trans hv)) nofun

/-- What stands for an identifier is the text of it. -/
theorem read?_of_scalar?_eq_objectId (s : List Char) (id : ObjectId)
    (h : scalar? s = some (.objectId id)) : ObjectId.read? s = some id := by
  have htruth : ∀ v, truth? s = some v → v ≠ .objectId id := by
    intro v hv
    unfold truth? at hv
    split at hv
    · cases hv
      nofun
    · split at hv
      · cases hv
        nofun
      · cases hv
  unfold scalar? objectId? at h
  -- The first reading that gives something decides, and only the last one gives
  -- identifiers.
  rcases ht : truth? s with _ | v
  · rcases hn : number? s with _ | v
    · rw [ht, hn] at h
      rcases Option.map_eq_some_iff.mp h with ⟨other, hread, hid⟩
      cases hid
      exact hread
    · rw [ht, hn] at h
      exact absurd (hn.trans h) (number?_ne_objectId s id)
  · rw [ht] at h
    exact absurd (Option.some.inj h) (htruth v ht)

end Coercion

namespace Request

/-- As a filter, the text of an identifier stands for it exactly if it is no
    numeral. -/
theorem filterValue_eq_objectId_iff (s : List Char) (id : ObjectId)
    (h : ObjectId.read? s = some id) : filterValue s = .objectId id ↔ ¬IsNumeral s := by
  rw [← Coercion.scalar?_eq_objectId_iff s id h]
  have hsome : ∃ v, Coercion.scalar? s = some v := by
    unfold Coercion.scalar? Coercion.objectId?
    rw [h]
    rcases Coercion.truth? s with _ | v
    · rcases Coercion.number? s with _ | v
      · exact ⟨_, rfl⟩
      · exact ⟨_, rfl⟩
    · exact ⟨_, rfl⟩
  rcases hsome with ⟨v, hv⟩
  unfold filterValue
  rw [hv, Option.some.injEq]

/-- The only parameter that is a filter. -/
theorem filters_cons (name : String) (s : List Char) (params : Params)
    (h : isFilterName name = true) (hparams : ∀ entry ∈ params, isFilterName entry.1 = false) :
    filters ((name, [String.ofList s]) :: params) = [(name, filterValue s)] := by
  have hjoin : Params.join [String.ofList s] = s := by simp [Params.join]
  -- No other parameter passes the test for filters.
  have hother : params.filter (fun p => isFilterName p.1) = [] := by
    rw [List.filter_eq_nil_iff]
    intro entry hentry
    rw [hparams entry hentry]
    exact Bool.false_ne_true
  have hfilter : List.filter (fun p => isFilterName p.1) ((name, [String.ofList s]) :: params) =
      [(name, [String.ofList s])] := by
    rw [List.filter_cons, if_pos h, hother]
  unfold filters
  rw [hfilter, List.map_singleton, hjoin]
  rfl

end Request

namespace Params

/-- The names of parameters, to which a value has been added. -/
theorem mem_names_append (params : Params) (name value key : String) :
    key ∈ (append params name value).map Prod.fst ↔ key = name ∨ key ∈ params.map Prod.fst := by
  induction params with
  | nil => simp [append]
  | cons p params ih =>
      rcases p with ⟨k, values⟩
      rw [append]
      by_cases hk : k = name
      · subst hk
        simp
      · rw [if_neg hk, List.map_cons, List.map_cons, List.mem_cons, List.mem_cons, ih]
        exact or_left_comm

/-- The names in pairs are the names of their parameters. -/
theorem mem_names_ofPairs (pairs : List (String × String)) (key : String) :
    key ∈ (ofPairs pairs).map Prod.fst ↔ key ∈ pairs.map Prod.fst := by
  have hfold : ∀ params : Params,
      key ∈ (pairs.foldl (fun params p => append params p.1 p.2) params).map Prod.fst ↔
        key ∈ pairs.map Prod.fst ∨ key ∈ params.map Prod.fst := by
    induction pairs with
    | nil => simp
    | cons p pairs ih =>
        intro params
        rw [List.foldl_cons, ih, mem_names_append, List.map_cons, List.mem_cons]
        tauto
  rw [ofPairs, hfold]
  simp

/-- A parameter in front is not touched by those with other names. -/
theorem ofPairs_cons_of_notMem (name value : String) (pairs : List (String × String))
    (h : name ∉ pairs.map Prod.fst) :
    ofPairs ((name, value) :: pairs) = (name, [value]) :: ofPairs pairs := by
  -- The other pairs are added one by one, to whatever stands behind the parameter by then.
  have hfold : ∀ params : Params,
      pairs.foldl (fun params p => append params p.1 p.2) ((name, [value]) :: params) =
        (name, [value]) :: pairs.foldl (fun params p => append params p.1 p.2) params := by
    induction pairs with
    | nil => exact fun _ => rfl
    | cons p pairs ih =>
        intro params
        rw [List.map_cons, List.mem_cons, not_or] at h
        rw [List.foldl_cons, List.foldl_cons, append, if_neg h.1, ih h.2]
  exact hfold []

/-- One more parameter in front of a query string that does not have it. -/
theorem parse_literal_append (name value query : List Char)
    (hname : name.all Text.FormEncoding.isLiteral = true)
    (hvalue : value.all Text.FormEncoding.isLiteral = true)
    (h : ∀ entry ∈ parse query, entry.1 ≠ String.ofList name) :
    parse (name ++ '=' :: value ++ '&' :: query) =
      (String.ofList name, [String.ofList value]) :: parse query := by
  unfold parse at h ⊢
  rw [Text.FormEncoding.pairs_append, Text.FormEncoding.pairs_literal name value hname hvalue,
    List.map_append]
  -- Names are grouped, so the new one stays alone in front if no other pair has it.
  refine ofPairs_cons_of_notMem _ _ _ ?_
  rw [← mem_names_ofPairs]
  intro hmem
  rcases List.mem_map.mp hmem with ⟨entry, hentry, heq⟩
  exact h entry hentry heq

theorem values?_eq_none (params : Params) (name : String) (h : ∀ entry ∈ params, entry.1 ≠ name) :
    values? params name = none := by
  induction params with
  | nil => rfl
  | cons p params ih =>
      rw [List.forall_mem_cons] at h
      rw [values?, if_neg h.1, ih h.2]

end Params

/-- A query string that asks for an identifier. -/
def identifierQuery (segment : List Char) : List Char :=
  "_id".toList ++ '=' :: segment

/-- A request for an identifier, with fields and relations. -/
def ListRequest.identified (id : ObjectId) (params : Params) : ListRequest where
  page := none
  limit := none
  fields := Request.fields params
  filters := [("_id", .objectId id)]
  sort := defaultSort
  search := ""
  populate := Request.distinct (Request.listed params "populate")

theorem Text.Hex.all_isLiteral (s : List Char) (h : s.all isDigit = true) :
    s.all Text.FormEncoding.isLiteral = true := by
  rw [List.all_eq_true] at h ⊢
  intro c hc
  have hdigit := h c hc
  -- Neither an escape nor a separator is a hexadecimal digit, and all of them are ASCII.
  have hascii : c.toNat < 0x80 := by
    unfold isDigit value? at hdigit
    by_contra hlarge
    rw [if_neg (by omega), if_neg (by omega), if_neg (by omega)] at hdigit
    cases hdigit
  rw [Text.FormEncoding.isLiteral_iff]
  refine ⟨hascii, ?_, ?_, ?_, ?_⟩
  all_goals
    rintro rfl
    exact absurd hdigit (by decide)

/-- The parameters of a query string that asks for an identifier. -/
theorem Params.parse_identifierQuery (segment query : List Char)
    (h : segment.all Text.Hex.isDigit = true) :
    parse (identifierQuery segment) = [("_id", [String.ofList segment])] ∧
      ((∀ entry ∈ parse query, entry.1 ≠ "_id") →
        parse (identifierQuery segment ++ '&' :: query) =
          ("_id", [String.ofList segment]) :: parse query) := by
  have hliteral := Text.Hex.all_isLiteral segment h
  exact ⟨parse_literal "_id".toList segment (by decide) hliteral,
    parse_literal_append "_id".toList segment query (by decide) hliteral⟩

/-- What asks for an identifier that is no numeral asks for it in the filter. -/
theorem ListRequest.ofParams_identifier (segment : List Char) (id : ObjectId) (params : Params)
    (h : Coercion.scalar? segment = some (.objectId id))
    (hparams : ∀ entry ∈ params, entry.1 = "fields" ∨ entry.1 = "populate") :
    ofParams (("_id", [String.ofList segment]) :: params) = identified id params := by
  -- What is not the identifier is looked up in the other parameters.
  have hget : ∀ name, name ≠ "_id" →
      Params.get? (("_id", [String.ofList segment]) :: params) name = params.get? name := by
    intro name hname
    rw [Params.get?, Params.values?, if_neg (Ne.symm hname)]
    rfl
  have hnone : ∀ name, name ≠ "fields" → name ≠ "populate" → params.get? name = none := by
    intro name hfields hpopulate
    rw [Params.get?, Params.values?_eq_none params name, Option.map_none]
    intro entry hentry
    rcases hparams entry hentry with heq | heq
    · exact heq ▸ Ne.symm hfields
    · exact heq ▸ Ne.symm hpopulate
  have hvalue : Request.filterValue segment = .objectId id := by
    unfold Request.filterValue
    rw [h]
  have hfilters : Request.filters (("_id", [String.ofList segment]) :: params) =
      [("_id", .objectId id)] := by
    rw [← hvalue]
    refine Request.filters_cons "_id" segment params (by decide) fun entry hentry => ?_
    rcases hparams entry hentry with heq | heq
    · rw [heq]
      decide
    · rw [heq]
      decide
  -- A request is read from its filters and six parameters, of which only two can be there.
  unfold ofParams identified Request.fields Request.sort Request.listed
  simp only [hfilters, hget "page" (by decide), hget "limit" (by decide),
    hget "fields" (by decide), hget "sort" (by decide), hget "search" (by decide),
    hget "populate" (by decide), hnone "page" (by decide) (by decide),
    hnone "limit" (by decide) (by decide), hnone "sort" (by decide) (by decide),
    hnone "search" (by decide) (by decide)]
  rfl

/-- The request for an identifier that a query string stands for, where the
    parameters after the identifier are fields and relations. -/
theorem ListRequest.ofParams_identifierQuery (segment query : List Char) (id : ObjectId)
    (h : Coercion.scalar? segment = some (.objectId id))
    (hquery : ∀ entry ∈ Params.parse query, entry.1 = "fields" ∨ entry.1 = "populate") :
    ofParams (Params.parse (identifierQuery segment)) = identified id [] ∧
      ofParams (Params.parse (identifierQuery segment ++ '&' :: query)) =
        identified id (Params.parse query) := by
  have hread := Coercion.read?_of_scalar?_eq_objectId segment id h
  have hdigits := (ObjectId.length_and_isDigit_of_read?_eq_some segment id hread).2
  have hother : ∀ entry ∈ Params.parse query, entry.1 ≠ "_id" := by
    intro entry hentry
    rcases hquery entry hentry with heq | heq
    · rw [heq]
      decide
    · rw [heq]
      decide
  rcases Params.parse_identifierQuery segment query hdigits with ⟨halone, hbefore⟩
  rw [halone, hbefore hother]
  exact ⟨ofParams_identifier segment id [] h nofun, ofParams_identifier segment id _ h hquery⟩

end DocQuery
