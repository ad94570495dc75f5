import DocQuery.Proofs.Text.FormEncoding
import DocQuery.Request.Basic
import Mathlib.Data.List.TakeWhile

/-!
# Page and Limit in Query Strings

What becomes of a query string when it is asked for one page of a given
length. The page and the limit are read back, up to the largest number of 64
bits, and nothing else in the request changes.

The parameters are added to the query string of the client as it is, so nothing
may be assumed of it but that it does not name them. A pair that is added comes
last among the pairs, and the values of one name are grouped wherever they
stand. The digits of a number stand for themselves in a query string, so no
escaping comes between what is written and what is read.

## Main definitions

* `ListRequest.onPage`: A request for one page.
* `pageQuery`: A query string that asks for one page.

## Theorems

* `Params.parse_literal`: A query string with a single parameter.
* `Params.parse_append_literal`: One more parameter in a query string.
* `Request.positive?_digits`: Positive numbers are read back.
* `ListRequest.ofParams_pageQuery`: What the query string for a page asks for.
-/

namespace DocQuery

open Number

namespace Params

/-- A query string with a single parameter, of characters that stand for
    themselves. -/
theorem parse_literal (name value : List Char)
    (hname : name.all Text.FormEncoding.isLiteral = true)
    (hvalue : value.all Text.FormEncoding.isLiteral = true) :
    parse (name ++ '=' :: value) = [(String.ofList name, [String.ofList value])] := by
  unfold parse
  rw [Text.FormEncoding.pairs_literal name value hname hvalue]
  rfl

/-- One more parameter in a query string is added to the others. -/
theorem parse_append_literal (query name value : List Char)
    (hname : name.all Text.FormEncoding.isLiteral = true)
    (hvalue : value.all Text.FormEncoding.isLiteral = true) :
    parse (query ++ '&' :: (name ++ '=' :: value)) =
      append (parse query) (String.ofList name) (String.ofList value) := by
  unfold parse ofPairs
  rw [Text.FormEncoding.pairs_append, Text.FormEncoding.pairs_literal name value hname hvalue,
    List.map_append, List.foldl_append]
  rfl

/-- A value under a name that fails a test changes nothing of what passes it. -/
theorem filter_append (params : Params) (name value : String) (test : String → Bool)
    (h : test name = false) :
    (append params name value).filter (fun p => test p.1) = params.filter fun p => test p.1 := by
  induction params with
  | nil => simp [append, h]
  | cons p params ih =>
      rcases p with ⟨k, values⟩
      rw [append]
      by_cases hk : k = name
      · subst hk
        simp [h]
      · rw [if_neg hk, List.filter_cons, List.filter_cons, ih]

theorem get?_append_of_ne (params : Params) (name other value : String) (h : other ≠ name) :
    get? (append params name value) other = get? params other := by
  unfold get?
  rw [values?_append_of_ne params name other value h]

/-- A parameter that was not there has the value that is added. -/
theorem get?_append_self_of_eq_none (params : Params) (name value : String)
    (h : get? params name = none) : get? (append params name value) name = some value.toList := by
  unfold get? at h ⊢
  rw [Option.map_eq_none_iff] at h
  rw [values?_append_self, h]
  simp [join]

end Params

theorem Number.isLiteral_of_isDigit (c : Char) (h : isDigit c = true) :
    Text.FormEncoding.isLiteral c = true := by
  unfold isDigit at h
  rw [Bool.and_eq_true, decide_eq_true_eq, decide_eq_true_eq] at h
  rw [Text.FormEncoding.isLiteral_iff]
  refine ⟨by omega, ?_, ?_, ?_, ?_⟩
  all_goals
    rintro rfl
    exact absurd h (by decide)

theorem Number.isLiteral_digits (n : Nat) :
    (digits n).all Text.FormEncoding.isLiteral = true := by
  rw [List.all_eq_true]
  intro c hc
  exact isLiteral_of_isDigit c (List.all_eq_true.mp (all_isDigit_digits n) c hc)

namespace Request

/-- Positive numbers of 64 bits are read back. -/
theorem positive?_digits (n : Nat) (hpos : 1 ≤ n) (hmax : n ≤ maxCount) :
    positive? (digits n) = some n := by
  have hall := all_isDigit_digits n
  rcases hd : digits n with _ | ⟨c, s⟩
  · exact absurd hd (digits_ne_nil n)
  rw [hd] at hall
  have hc : isDigit c = true := List.all_eq_true.mp hall c List.mem_cons_self
  -- The digits start with neither a blank nor a plus sign, and nothing comes behind them.
  have hplus : skipPlus (c :: s) = c :: s := by
    unfold skipPlus
    split
    · rename_i heq
      rw [(List.cons.inj heq).1] at hc
      exact absurd hc (by decide)
    · rfl
  have htake : (c :: s).takeWhile isDigit = c :: s :=
    List.takeWhile_eq_self_iff.mpr fun x hx => List.all_eq_true.mp hall x hx
  unfold positive?
  rw [Text.trimStart_of_not_isBlank c s (not_isBlank_of_isDigit c hc), hplus, htake, ← hd]
  simp only [ofDigits_digits]
  rw [if_pos ⟨hpos, hmax⟩]

theorem filters_append (params : Params) (name value : String) (h : isFilterName name = false) :
    filters (params.append name value) = filters params := by
  unfold filters
  rw [Params.filter_append params name value isFilterName h]

end Request

/-- A request for one page. -/
def ListRequest.onPage (r : ListRequest) (page limit : Nat) : ListRequest :=
  { r with page := some page, limit := some limit }

/-- A query string that asks for one page of what another one asks for. -/
def pageQuery (query : List Char) (page limit : Nat) : List Char :=
  query ++ "&page=".toList ++ digits page ++ "&limit=".toList ++ digits limit

/-- The parameters of a query string for a page are those of the other one and
    two more. -/
theorem parse_pageQuery (query : List Char) (page limit : Nat) :
    Params.parse (pageQuery query page limit) =
      ((Params.parse query).append "page" (String.ofList (digits page))).append "limit"
        (String.ofList (digits limit)) := by
  have hquery : pageQuery query page limit =
      (query ++ '&' :: ("page".toList ++ '=' :: digits page)) ++
        '&' :: ("limit".toList ++ '=' :: digits limit) := by
    simp [pageQuery]
  rw [hquery, Params.parse_append_literal _ _ _ (by decide) (isLiteral_digits limit),
    Params.parse_append_literal _ _ _ (by decide) (isLiteral_digits page), String.ofList_toList,
    String.ofList_toList]

/-- The query string for a page asks for that page, and for nothing else that
    is new. -/
theorem ListRequest.ofParams_pageQuery (query : List Char) (page limit : Nat)
    (hpage : (Params.parse query).get? "page" = none)
    (hlimit : (Params.parse query).get? "limit" = none)
    (hpagePos : 1 ≤ page) (hpageMax : page ≤ maxCount)
    (hlimitPos : 1 ≤ limit) (hlimitMax : limit ≤ maxCount) :
    ofParams (Params.parse (pageQuery query page limit)) =
      (ofParams (Params.parse query)).onPage page limit := by
  have hother : ∀ name, name ≠ "page" → name ≠ "limit" →
      (Params.parse (pageQuery query page limit)).get? name = (Params.parse query).get? name := by
    intro name hname hne
    rw [parse_pageQuery, Params.get?_append_of_ne _ _ _ _ hne,
      Params.get?_append_of_ne _ _ _ _ hname]
  have hpageText : (Params.parse (pageQuery query page limit)).get? "page" =
      some (digits page) := by
    rw [parse_pageQuery, Params.get?_append_of_ne _ _ _ _ (by decide),
      Params.get?_append_self_of_eq_none _ _ _ hpage, String.toList_ofList]
  -- The page is added first, under another name, so the limit is still absent then.
  have hlimitText : (Params.parse (pageQuery query page limit)).get? "limit" =
      some (digits limit) := by
    have hnone : ((Params.parse query).append "page" (String.ofList (digits page))).get? "limit" =
        none := by
      rw [Params.get?_append_of_ne _ _ _ _ (by decide), hlimit]
    rw [parse_pageQuery, Params.get?_append_self_of_eq_none _ _ _ hnone, String.toList_ofList]
  have hfilters : Request.filters (Params.parse (pageQuery query page limit)) =
      Request.filters (Params.parse query) := by
    rw [parse_pageQuery, Request.filters_append _ _ _ (by decide),
      Request.filters_append _ _ _ (by decide)]
  -- A request is read from its filters and these six parameters.
  unfold ofParams onPage Request.fields Request.sort Request.listed
  simp only [hpageText, hlimitText, hfilters, Option.bind_some,
    Request.positive?_digits page hpagePos hpageMax,
    Request.positive?_digits limit hlimitPos hlimitMax,
    hother "fields" (by decide) (by decide), hother "sort" (by decide) (by decide),
    hother "search" (by decide) (by decide), hother "populate" (by decide) (by decide)]

end DocQuery
