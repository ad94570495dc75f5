import DocQuery.Proofs.Endpoint.Answer
import DocQuery.Proofs.Listing.Meaning
import DocQuery.Proofs.Request.Query

/-!
# Pages of a List

The pages of a list are the list. One after the other they have all entries of
the answer without pages, in its order, and none of them twice; the pages after
the last one are empty. This holds for every limit and every page of 64 bits,
although the number of documents to skip is cut off at the largest number of 64
bits, and both counts at the largest integer of 64 bits.

A page is cut out before relations are expanded, so its length is a number of
documents and not of entries.

The pages have to be cut out of something. That is the documents that match, in
order, and the number of a page has no influence on them. So there is one condition
for all pages together: that these documents have an order, and that the search
term is small enough to be searched for.

The numbers of a response are stated along with its entries, since a client
finds the pages by them: the total and the number of pages are the same on every
page, and a page is empty exactly if its number is greater than the number of
pages. The total is that of documents that match, and so is the number of pages.

To put the pages together is first a fact about lists
(`ListRequest.flatMap_pageOf`), where a page is what is dropped and taken. The
counts of a request are cut off at bounds that the list stays within, so they cut
out the same page (`ListRequest.cut_onPage`). Expanding relations row by row then
goes through, because it is done for each document on its own.

## Main definitions

* `ListRequest.pageOf`: A part of a list by its number.
* `Profile.rows`: What the pages are cut out of.

## Theorems

* `ListRequest.flatMap_pageOf`: The parts of a list make up the list.
* `ListRequest.pageOf_eq_nil_iff`: Which parts are empty.
* `ListRequest.cut_onPage`: Clamped counts cut out the right part.
* `Profile.handle_pages`: The answers to the requests for each page.
* `Profile.handle_large`: A search term that is too large.
-/

namespace DocQuery

namespace PageNumbers

theorem countPages_lt_iff (total limit page : Nat) (hlimit : 1 ≤ limit) (hpage : 1 ≤ page) :
    countPages total limit < page ↔ total ≤ (page - 1) * limit := by
  rcases page with _ | page
  · omega
  have hmul : (page + 1) * limit = page * limit + limit := Nat.succ_mul page limit
  -- The number of pages is rounded up, so the division is compared from above.
  unfold countPages
  rw [if_neg (by omega), Nat.div_lt_iff_lt_mul hlimit, Nat.add_sub_cancel]
  omega

/-- All pages together have room for everything. -/
theorem le_countPages_mul (total limit : Nat) (hlimit : 1 ≤ limit) :
    total ≤ countPages total limit * limit := by
  have h := countPages_lt_iff total limit (countPages total limit + 1) hlimit (by omega)
  exact h.mp (Nat.lt_succ_self _)

end PageNumbers

namespace ListRequest

/-- The part of a list that is the page of a number, counted from one. -/
def pageOf {α : Type} (xs : List α) (limit page : Nat) : List α :=
  (xs.drop ((page - 1) * limit)).take limit

variable {α : Type}

theorem flatMap_pageOf_eq_take (xs : List α) (limit n : Nat) :
    (List.range' 1 n).flatMap (pageOf xs limit) = xs.take (n * limit) := by
  induction n with
  | zero => simp
  | succ n ih =>
      have hlast : pageOf xs limit (1 + n) = (xs.drop (n * limit)).take limit := by
        unfold pageOf
        rw [Nat.add_sub_cancel_left]
      rw [List.range'_1_concat, List.flatMap_append, ih, List.flatMap_singleton, hlast,
        Nat.succ_mul, List.take_add]

/-- The pages of a list, one after the other, are the list. -/
theorem flatMap_pageOf (xs : List α) (limit : Nat) (hlimit : 1 ≤ limit) :
    (List.range' 1 (PageNumbers.countPages xs.length limit)).flatMap (pageOf xs limit) = xs := by
  rw [flatMap_pageOf_eq_take]
  exact List.take_of_length_le (PageNumbers.le_countPages_mul xs.length limit hlimit)

/-- A page is empty exactly if it comes after the last one. -/
theorem pageOf_eq_nil_iff (xs : List α) (limit page : Nat) (hlimit : 1 ≤ limit)
    (hpage : 1 ≤ page) :
    pageOf xs limit page = [] ↔ PageNumbers.countPages xs.length limit < page := by
  rw [PageNumbers.countPages_lt_iff xs.length limit page hlimit hpage]
  unfold pageOf
  rw [List.take_eq_nil_iff, List.drop_eq_nil_iff]
  omega

/-- The counts of a request for a page cut out that page. -/
theorem cut_onPage (r : ListRequest) (limit page : Nat) (xs : List α)
    (h : xs.length ≤ Value.maxInt64) :
    Listing.cut (r.onPage page limit) xs = pageOf xs limit page := by
  have hmax : Value.maxInt64 ≤ maxCount := by decide
  have hdrop : xs.drop (min ((page - 1) * limit) maxCount) = xs.drop ((page - 1) * limit) := by
    by_cases hskip : (page - 1) * limit ≤ maxCount
    · rw [Nat.min_eq_left hskip]
    · -- A number that has been cut off skips everything, as the right one does.
      rw [List.drop_eq_nil_of_le (by omega), List.drop_eq_nil_of_le (by omega)]
  rw [Listing.cut_eq_of_length_le _ _ h]
  unfold pageOf
  rw [← hdrop]
  rfl

theorem cut_of_limit_eq_none (r : ListRequest) (xs : List α) (h : r.limit = none) :
    Listing.cut r xs = xs := by
  unfold Listing.cut
  rw [h]

end ListRequest

namespace Profile

/-- The documents that a request for a list asks for, on whatever page they
    are, before relations are expanded. They are made of those that match, in
    order. -/
def rows (p : Profile) (r : ListRequest) (sorted : List Document) : List Document :=
  sorted.map (Document.pick (p.listing r).request.fields)

section Rows

variable {p : Profile} {r : ListRequest} {docs sorted : List Document}
  (h : (p.listing r).ordered docs = some sorted)

include h

theorem length_rows : (p.rows r sorted).length = ((p.listing r).found docs).length := by
  rw [rows, List.length_map]
  exact (Listing.perm_of_ordered_eq_some h).length_eq

theorem length_rows_le : (p.rows r sorted).length ≤ docs.length := by
  rw [length_rows h]
  exact Listing.length_found_le _ docs

/-- Without a limit there is one page with all documents. -/
theorem shown_of_limit_eq_none (hlimit : r.limit = none) :
    (p.listing r).shown docs = some (p.rows r sorted) := by
  rw [Listing.shown_of_ordered_eq_some h]
  exact congrArg some (ListRequest.cut_of_limit_eq_none (p.listing r).request _ hlimit)

/-- The number of a page and the limit do not change the order. -/
theorem shown_onPage (limit page : Nat) (hsize : docs.length ≤ Value.maxInt64) :
    (p.listing (r.onPage page limit)).shown docs =
      some (ListRequest.pageOf (p.rows r sorted) limit page) := by
  -- What is found and its order do not depend on the page, by definition.
  have hsame : (p.listing (r.onPage page limit)).ordered docs = some sorted := h
  rw [Listing.shown_of_ordered_eq_some hsame]
  exact congrArg some (ListRequest.cut_onPage (p.listing r).request limit page (p.rows r sorted)
    (Nat.le_trans (length_rows_le h) hsize))

end Rows

theorem flatMap_entries_eq_nil_iff (p : Profile) (collection : String → List Document)
    (relations : List Relation) (docs : List Document) :
    docs.flatMap (p.entries collection relations) = [] ↔ docs = [] := by
  rw [List.flatMap_eq_nil_iff]
  constructor
  · intro hnil
    rcases docs with _ | ⟨d, docs⟩
    · rfl
    · exact absurd (hnil d List.mem_cons_self) (p.entries_ne_nil collection relations d)
  · rintro rfl d hd
    cases hd

/-- The pages of a list. The answers for all pages have the same numbers, and
    their entries, one page after the other, are those of the answer without
    pages. All of them are there if the search term is small enough and if the
    documents that match have an order, which they have if the keys are transitive
    on them or if they are few. -/
theorem handle_pages (s : Store) (name : String) (p : Profile) (query : List Char) (limit : Nat)
    (hstore : ∀ name, ∀ d ∈ s.documents name, d.Storable)
    (hsize : (s.documents name).length ≤ Value.maxInt64)
    (hsearch : ∀ field ∈ p.searchFields, Filter.isOperator field = false)
    (hrelations : ∀ relation ∈ p.relations, (Path.ofString relation.name).isMarked = false ∧
      (Path.ofString relation.localField).isMarked = false)
    (hfields : ∀ field ∈ Request.fields (Params.parse query),
      (Path.ofString field).isMarked = false)
    (hpage : (Params.parse query).get? "page" = none)
    (hlimit : (Params.parse query).get? "limit" = none)
    (hpos : 1 ≤ limit) (hmax : limit ≤ maxCount)
    (hterm : Listing.Searchable (ListRequest.ofParams (Params.parse query)).search
      p.searchFields) :
    ((SortKeys.ofKeys (p.listingFor (Params.parse query)).request.sort).TransitiveOn
          ((p.listingFor (Params.parse query)).found (s.documents name)) ∨
        ((p.listingFor (Params.parse query)).found (s.documents name)).length ≤ 20 →
      ∃ sorted, (p.listingFor (Params.parse query)).ordered (s.documents name) = some sorted) ∧
    ∀ sorted, (p.listingFor (Params.parse query)).ordered (s.documents name) = some sorted →
      ∃ (entries : List Json) (page : Nat → List Json) (total : Nat),
        p.handle (Call.list query) (s.answer name) =
          .ok p.retrieved (.array entries) (some (.make none none total)) ∧
        (∀ k, 1 ≤ k → k ≤ maxCount →
          p.handle (Call.list (pageQuery query k limit)) (s.answer name) =
              .ok p.retrieved (.array (page k))
                (some ⟨k, limit, total, (total + limit - 1) / limit⟩) ∧
            (page k = [] ↔ (total + limit - 1) / limit < k)) ∧
        (List.range' 1 ((total + limit - 1) / limit)).flatMap page = entries := by
  refine ⟨Listing.exists_ordered _ _, fun sorted hsorted => ?_⟩
  let r := ListRequest.ofParams (Params.parse query)
  let rows := p.rows r sorted
  let entries := p.entries s.documents (p.relationsNamed r.populate)
  have hrpage : r.page = none :=
    Option.bind_eq_none_iff.mpr fun text htext => by rw [hpage] at htext; cases htext
  have hrlimit : r.limit = none :=
    Option.bind_eq_none_iff.mpr fun text htext => by rw [hlimit] at htext; cases htext
  -- The total counts what is found before it is cut into pages and before relations
  -- are expanded, and these are as many as there are rows.
  have htotal : min ((p.listing r).found (s.documents name)).length Value.maxInt64 =
      rows.length := by
    rw [← length_rows hsorted]
    exact Nat.min_eq_left (Nat.le_trans (length_rows_le hsorted) hsize)
  -- A limit is positive here, so no case is made of zero.
  have hcount : PageNumbers.countPages rows.length limit = (rows.length + limit - 1) / limit :=
    if_neg (by omega)
  have hmatch : (p.listing r).Matches s name :=
    matches_listing s name p r hsearch (Request.readable_filters _) hterm
  refine ⟨rows.flatMap entries, fun k => (ListRequest.pageOf rows limit k).flatMap entries,
    rows.length, ?_, ?_, ?_⟩
  · rw [handle_list s name p query r rfl hstore hrelations hmatch hfields,
      shown_of_limit_eq_none hsorted hrlimit, Option.elim_some, htotal, hrpage, hrlimit]
  · intro k hk hkmax
    have hquery := ListRequest.ofParams_pageQuery query k limit hpage hlimit hk hkmax hpos hmax
    have hfound : (p.listing (r.onPage k limit)).found (s.documents name) =
        (p.listing r).found (s.documents name) := rfl
    refine ⟨?_, ?_⟩
    · rw [handle_list s name p _ _ hquery hstore hrelations hmatch hfields,
        shown_onPage hsorted limit k hsize, Option.elim_some, hfound, htotal, ← hcount]
      rfl
    · rw [p.flatMap_entries_eq_nil_iff, ListRequest.pageOf_eq_nil_iff rows limit k hpos hk, hcount]
  · -- Expanding relations row by row can be done after the pages are joined.
    rw [← hcount, ← List.flatMap_assoc, ListRequest.flatMap_pageOf rows limit hpos]

/-- A store with people in teams. -/
def sampleStore : Store where
  collections :=
    [("people",
      [[("_id", .int32 1), ("name", .string "Ann"), ("team", .int32 7)],
       [("_id", .int32 2), ("name", .string "Bob")],
       [("_id", .int32 3), ("name", .string "Eve"), ("team", .array [.int32 7, .int32 8])]]),
     ("teams", [[("_id", .int32 7)], [("_id", .int32 8)]])]
  supply := .counting ⟨0⟩

/-- A profile that shows the teams of people. -/
def sampleProfile : Profile where
  name := "people"
  searchFields := ["name"]
  relations := [{ name := "team", collection := "teams", localField := "team", single := true }]

theorem handle_pages_sample :
    ∃ (entries : List Json) (page : Nat → List Json) (total : Nat),
      sampleProfile.handle (Call.list "sort=-name&populate=team".toList)
          (sampleStore.answer "people") =
        .ok "people retrieved successfully" (.array entries) (some (.make none none total)) ∧
      (∀ k, 1 ≤ k → k ≤ maxCount →
        sampleProfile.handle (Call.list (pageQuery "sort=-name&populate=team".toList k 2))
            (sampleStore.answer "people") =
            .ok "people retrieved successfully" (.array (page k))
              (some ⟨k, 2, total, (total + 2 - 1) / 2⟩) ∧
          (page k = [] ↔ (total + 2 - 1) / 2 < k)) ∧
      (List.range' 1 ((total + 2 - 1) / 2)).flatMap page = entries := by
  have hparse : Params.parse "sort=-name&populate=team".toList =
      [("sort", ["-name"]), ("populate", ["team"])] := by
    have hquery : "sort=-name&populate=team".toList = ("sort".toList ++ '=' :: "-name".toList) ++
        '&' :: ("populate".toList ++ '=' :: "team".toList) := rfl
    rw [hquery, Params.parse_append_literal _ _ _ (by decide) (by decide),
      Params.parse_literal _ _ (by decide) (by decide)]
    rfl
  have hfound : ((sampleProfile.listingFor
      (Params.parse "sort=-name&populate=team".toList)).found
        (sampleStore.documents "people")).length ≤ 20 := by
    rw [hparse]
    decide
  have h := handle_pages sampleStore "people" sampleProfile "sort=-name&populate=team".toList 2
    (Store.forall_documents sampleStore (by decide)) (by decide) (by decide) (by decide)
    (by rw [hparse]; decide) (by rw [hparse]; rfl) (by rw [hparse]; rfl) (by decide) (by decide)
    (by rw [hparse]; exact fun hterm => absurd rfl hterm)
  rcases h.1 (.inr hfound) with ⟨sorted, hsorted⟩
  exact h.2 sorted hsorted

/-- A query string with a search term that is too large. -/
def largeQuery : List Char :=
  "search".toList ++ '=' :: Listing.largeTerm

theorem parse_largeQuery : Params.parse largeQuery = Listing.searchParams Listing.largeTerm := by
  have hliteral : Listing.largeTerm.all Text.FormEncoding.isLiteral = true := by
    rw [List.all_eq_true]
    intro c hc
    rw [List.eq_of_mem_replicate hc]
    decide
  exact Params.parse_literal "search".toList Listing.largeTerm (by decide) hliteral

/-- A search term that is too large fails with a page and without. Neither
    response has entries or a number of all matches. -/
theorem handle_large :
    (∀ d ∈ sampleStore.documents "people", d.Storable) ∧
      (Params.parse largeQuery).get? "page" = none ∧
      (Params.parse largeQuery).get? "limit" = none ∧
      sampleProfile.handle (Call.list largeQuery) (sampleStore.answer "people") =
        .failure (.store (PipelineError.filter .largePattern).message) ∧
      sampleProfile.handle (Call.list (pageQuery largeQuery 1 10)) (sampleStore.answer "people") =
        .failure (.store (PipelineError.filter .largePattern).message) := by
  have hpage : (Params.parse largeQuery).get? "page" = none := by
    rw [parse_largeQuery]
    rfl
  have hlimit : (Params.parse largeQuery).get? "limit" = none := by
    rw [parse_largeQuery]
    rfl
  -- The term is far beyond what the engine takes, and there is a field to search in.
  have hterm : ¬Listing.Searchable (ListRequest.ofParams (Params.parse largeQuery)).search
      sampleProfile.searchFields := by
    rw [parse_largeQuery]
    exact Listing.not_searchable_largeTerm (List.cons_ne_nil _ _)
  have hpaged := ListRequest.ofParams_pageQuery largeQuery 1 10 hpage hlimit (by decide) (by decide)
    (by decide) (by decide)
  exact ⟨by decide, hpage, hlimit,
    handle_list_of_not_searchable _ _ _ _ rfl (by decide) hterm,
    handle_list_of_not_searchable _ _ _ _ hpaged (by decide) hterm⟩

end Profile

end DocQuery
