import DocQuery.Proofs.Endpoint.Pages
import DocQuery.Proofs.Request.Leading

/-!
# Pages beyond the End

What becomes of the number of a page. With a limit, a page after the last one has
no documents, and the response says so with the number that was asked for. This
goes up to the largest number of 64 bits. A larger number is not read, and as a
page that is not read is as good as none, the response has the first page.

That a page beyond the end is empty says that there is a response, and two things
can stand in the way. The documents that match are sorted whatever page is asked
for, and the search term is searched for, so both can fail as they can on any
other page.

How the numbers are read is stated exactly, with all that may stand around them,
and what is too large is stated as a change of the request: the response is that
to a request without the parameter. So a client that asks for a page too far
away cannot be told from one that asks for none, and gets the first page where
it should get nothing (`Profile.handle_page_wrapped`).

## Theorems

* `Listing.shown_eq_nil`: There is nothing on a page beyond the end.
* `Profile.listResponse_beyond`: The response for such a page.
* `Profile.handle_numbered`: How pages and limits are read, and what the response
  has.
* `Profile.handle_page_wrapped`: A page that is too far away to be read.
-/

namespace DocQuery

/-- There is nothing on a page beyond the end, if there is a page at all. -/
theorem Listing.shown_eq_nil {l : Listing} {docs shown : List Document} {page limit : Nat}
    (hpage : l.request.page = some page) (hlimit : l.request.limit = some limit)
    (hsize : docs.length ≤ Value.maxInt64)
    (hend : (l.found docs).length ≤ (page - 1) * limit) (hshown : l.shown docs = some shown) :
    shown = [] := by
  rcases shown_eq_some_iff.mp hshown with ⟨sorted, hsorted, rfl⟩
  have hfound := l.length_found_le docs
  have hmax : Value.maxInt64 ≤ maxCount := by decide
  have hlength : (sorted.map (Document.pick l.request.fields)).length =
      (l.found docs).length := by
    rw [List.length_map]
    exact (perm_of_ordered_eq_some hsorted).length_eq
  have hskip : l.request.skip = min ((page - 1) * limit) maxCount := by
    unfold ListRequest.skip
    rw [hpage, hlimit]
  -- To skip is bounded by the largest number, but the list is shorter than that.
  rw [cut_eq_of_length_le _ _ (by omega), window, hlimit, hskip]
  simp only
  rw [List.drop_eq_nil_of_le (by omega), List.take_nil]

/-- The smallest number that is too large to be read. -/
theorem Request.leadingNumber_large :
    LeadingNumber "18446744073709551616".toList (maxCount + 1) := by
  have hvalue : Number.ofDigits "18446744073709551616".toList = maxCount + 1 := by
    decide
  -- As a text of digits alone it leads itself.
  rw [← hvalue]
  exact leadingNumber_of_isDigit _ (by decide) (List.all_eq_true.mp (by decide))

/-- A query string for a page and a limit, of characters that stand for
    themselves. -/
theorem Params.parse_paged (page limit : List Char)
    (hpage : page.all Text.FormEncoding.isLiteral = true)
    (hlimit : limit.all Text.FormEncoding.isLiteral = true) :
    parse ("page".toList ++ '=' :: page ++ '&' :: ("limit".toList ++ '=' :: limit)) =
      [("page", [String.ofList page]), ("limit", [String.ofList limit])] := by
  have hrest := parse_literal "limit".toList limit (by decide) hlimit
  rw [parse_literal_append _ _ _ (by decide) hpage, hrest]
  · rfl
  · rw [hrest]
    intro entry hentry
    rw [List.mem_singleton.mp hentry]
    show "limit" ≠ "page"
    decide

theorem Params.parse_large : parse "page=18446744073709551616&limit=2".toList =
    [("page", ["18446744073709551616"]), ("limit", ["2"])] :=
  parse_paged "18446744073709551616".toList "2".toList (by decide) (by decide)

namespace Profile

/-- The response for a page beyond the end has no entries. Where there is no such
    response, that has nothing to do with pages: the documents that match have no
    order, or the match fails, as the search term is too large or a field to search
    in is written like an operator. -/
theorem listResponse_beyond (p : Profile) (s : Store) (name : String) (r : ListRequest)
    (page limit : Nat) (hfilters : Filter.Readable r.filters) (hsort : SortKey.Separate r.sort)
    (hpage : r.page = some page) (hlimit : r.limit = some limit)
    (hsize : (s.documents name).length ≤ Value.maxInt64)
    (hend : ((p.listing r).found (s.documents name)).length ≤ (page - 1) * limit) :
    p.listResponse r (s.answer name (p.listing r).compile) =
        .ok p.retrieved (.array []) (some (.make (some page) (some limit)
          ((p.listing r).found (s.documents name)).length)) ∨
      (p.listing r).ordered (s.documents name) = none ∧
        p.listResponse r (s.answer name (p.listing r).compile) = .missing ∨
      (¬Listing.Searchable r.search p.searchFields ∨
          ∃ field ∈ p.searchFields, Filter.isOperator field = true) ∧
        ∃ message, p.listResponse r (s.answer name (p.listing r).compile) =
          .failure (.store message) := by
  have htotal : min ((p.listing r).found (s.documents name)).length Value.maxInt64 =
      ((p.listing r).found (s.documents name)).length :=
    Nat.min_eq_left (Nat.le_trans ((p.listing r).length_found_le _) hsize)
  rcases Listing.matches_or_error s name (p.listing r) with hmatch | ⟨error, hmatch⟩
  swap
  · refine .inr (.inr ⟨?_, (PipelineError.filter error).message, ?_⟩)
    · -- With a term that is small enough and fields of the usual kind, the match succeeds.
      by_contra hneither
      rw [not_or, not_not, not_exists] at hneither
      have hfields : ∀ field ∈ p.searchFields, Filter.isOperator field = false :=
        fun field hfield => (Bool.not_eq_true _).mp fun h => hneither.2 field ⟨hfield, h⟩
      have hsuccess := matches_listing s name p r hfields hfilters hneither.1
      rw [Listing.Matches, hmatch] at hsuccess
      cases hsuccess
    · rw [Listing.answer_of_error rfl hmatch]
      rfl
  rw [listResponse_eq hmatch hsort]
  rcases hshown : (p.listing r).shown (s.documents name) with _ | shown
  · rw [paged, hshown]
    exact .inr (.inl ⟨Listing.shown_eq_none_iff.mp hshown, rfl⟩)
  · rw [paged_of_shown_eq_some hshown, Listing.shown_eq_nil hpage hlimit hsize hend hshown, htotal,
      hpage, hlimit]
    exact .inl rfl

/-- How the page and the limit of a request are read, and what the response has.
    A positive number at the front of a text is read if it has no more than 64
    bits. A larger one is as good as an absent parameter. With a limit, every page
    beyond the end that is read is empty, if the request can be answered at all: the
    documents that match have an order and the match does not fail. -/
theorem handle_numbered (params : Params) :
    let r := ListRequest.ofParams params
    (∀ n, r.page = some n ↔ ∃ text, params.get? "page" = some text ∧
      0 < n ∧ n ≤ maxCount ∧ Request.LeadingNumber text n) ∧
    (∀ n, r.limit = some n ↔ ∃ text, params.get? "limit" = some text ∧
      0 < n ∧ n ≤ maxCount ∧ Request.LeadingNumber text n) ∧
    (∀ name, name = "page" ∨ name = "limit" → ∀ text n, params.get? name = some text →
      Request.LeadingNumber text n → maxCount < n →
      ListRequest.ofParams (params.without name) = r) ∧
    ∀ (p : Profile) (s : Store) (name : String) (query : List Char) (page limit : Nat),
      Params.parse query = params → (s.documents name).length ≤ Value.maxInt64 →
      r.page = some page → r.limit = some limit →
      ((p.listing r).found (s.documents name)).length ≤ (page - 1) * limit →
      (p.handle (Call.list query) (s.answer name) =
            .ok p.retrieved (.array []) (some (.make (some page) (some limit)
              ((p.listing r).found (s.documents name)).length)) ∨
          (p.listing r).ordered (s.documents name) = none ∧
            p.handle (Call.list query) (s.answer name) = .missing ∨
          (¬Listing.Searchable r.search p.searchFields ∨
              ∃ field ∈ p.searchFields, Filter.isOperator field = true) ∧
            ∃ message, p.handle (Call.list query) (s.answer name) = .failure (.store message)) ∧
        ((SortKeys.ofKeys (p.listing r).request.sort).TransitiveOn
              ((p.listing r).found (s.documents name)) ∨
            ((p.listing r).found (s.documents name)).length ≤ 20 →
          ∃ sorted, (p.listing r).ordered (s.documents name) = some sorted) := by
  intro r
  have hread : ∀ name n, (params.get? name).bind Request.positive? = some n ↔
      ∃ text, params.get? name = some text ∧
        0 < n ∧ n ≤ maxCount ∧ Request.LeadingNumber text n := by
    intro name n
    rw [Option.bind_eq_some_iff]
    simp only [Request.positive?_eq_some_iff]
  -- Both parameters are read in the same way, so what is left are large numbers and the
  -- response.
  refine ⟨hread "page", hread "limit", ?_, ?_⟩
  · intro name hname text n htext hnumber hmax
    refine ListRequest.ofParams_without params name hname ?_
    rw [htext, Option.bind_some, Request.positive?_eq_none_of_lt text n hnumber hmax]
  · intro p s name query page limit hquery hsize hpage hlimit hend
    have hfilters : Filter.Readable r.filters := Request.readable_filters params
    have hsort : SortKey.Separate r.sort := Request.separate_sort params
    rw [handle_call_list, listingFor, hquery]
    exact ⟨p.listResponse_beyond s name r page limit hfilters hsort hpage hlimit hsize hend,
      Listing.exists_ordered _ _⟩

theorem handle_numbered_sample :
    Request.LeadingNumber "0009".toList 9 ∧
      (ListRequest.ofParams (Params.parse "page=0009&limit=2x".toList)).page = some 9 ∧
      sampleProfile.handle (Call.list "page=0009&limit=2x".toList) (sampleStore.answer "people") =
        .ok "people retrieved successfully" (.array []) (some ⟨9, 2, 3, 2⟩) ∧
      ListRequest.ofParams
          ((Params.parse "page=18446744073709551616&limit=2".toList).without "page") =
        ListRequest.ofParams (Params.parse "page=18446744073709551616&limit=2".toList) := by
  have hnumber : Request.LeadingNumber "0009".toList 9 :=
    Request.leadingNumber_of_isDigit _ (by decide) (List.all_eq_true.mp (by decide))
  have hparams : Params.parse "page=0009&limit=2x".toList =
      [("page", ["0009"]), ("limit", ["2x"])] :=
    Params.parse_paged "0009".toList "2x".toList (by decide) (by decide)
  have hpage := ((handle_numbered (Params.parse "page=0009&limit=2x".toList)).1 9).mpr
    ⟨_, by rw [hparams]; rfl, by decide, by decide, hnumber⟩
  have hlimit :
      (ListRequest.ofParams (Params.parse "page=0009&limit=2x".toList)).limit = some 2 := by
    rw [hparams]
    rfl
  have hfound : ((sampleProfile.listing (ListRequest.ofParams
      (Params.parse "page=0009&limit=2x".toList))).found
        (sampleStore.documents "people")).length = 3 := by
    rw [hparams]
    rfl
  rcases (handle_numbered (Params.parse "page=0009&limit=2x".toList)).2.2.2
    sampleProfile sampleStore "people" "page=0009&limit=2x".toList 9 2 rfl
    (by decide) hpage hlimit (by rw [hfound]; decide) with ⟨hresponse, hfew⟩
  rw [hfound] at hresponse
  have hwrapped := (handle_numbered
    (Params.parse "page=18446744073709551616&limit=2".toList)).2.2.1 "page" (Or.inl rfl) _ _
    (by rw [Params.parse_large]; rfl) Request.leadingNumber_large (Nat.lt_succ_self maxCount)
  refine ⟨hnumber, hpage, ?_, hwrapped⟩
  rcases hresponse with hanswer | ⟨hnone, -⟩ | ⟨hterm | ⟨field, hfield, hoperator⟩, -⟩
  · exact hanswer
  · rcases hfew (.inr (by rw [hfound]; decide)) with ⟨sorted, hsorted⟩
    rw [hnone] at hsorted
    cases hsorted
  · rw [hparams] at hterm
    exact absurd (fun hterm => absurd rfl hterm) hterm
  · rw [List.mem_singleton.mp hfield] at hoperator
    exact absurd hoperator (by decide)

/-- A page that is too far away to be read is not empty: it is the first one. -/
theorem handle_page_wrapped :
    Request.LeadingNumber "18446744073709551616".toList (maxCount + 1) ∧
      (sampleStore.documents "people").length ≤ maxCount * 2 ∧
      sampleProfile.handle (Call.list "page=18446744073709551616&limit=2".toList)
          (sampleStore.answer "people") =
        .ok "people retrieved successfully"
          (.array (((sampleStore.documents "people").take 2).map fun d =>
            (Value.document d).plain))
          (some ⟨1, 2, 3, 2⟩) := by
  have hunread : ((Params.parse "page=18446744073709551616&limit=2".toList).get? "page").bind
      Request.positive? = none := by
    rw [Params.parse_large]
    exact Request.positive?_eq_none_of_lt _ _ Request.leadingNumber_large
      (Nat.lt_succ_self maxCount)
  have hrequest := ListRequest.ofParams_without _ "page" (Or.inl rfl) hunread
  have hwithout : (Params.parse "page=18446744073709551616&limit=2".toList).without "page" =
      [("limit", ["2"])] := by
    rw [Params.parse_large]
    decide
  rw [hwithout] at hrequest
  refine ⟨Request.leadingNumber_large, by decide, ?_⟩
  have hmatch : (sampleProfile.listing (ListRequest.ofParams [("limit", ["2"])])).Matches
      sampleStore "people" := matches_of_get?_eq_none sampleStore "people" sampleProfile rfl
  rw [handle_list sampleStore "people" sampleProfile _ _ hrequest.symm
    (Store.forall_documents sampleStore (by decide)) (by decide) hmatch (by decide)]
  rfl

end Profile

end DocQuery
