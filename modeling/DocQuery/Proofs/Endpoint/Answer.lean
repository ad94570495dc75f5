import DocQuery.Endpoint.Handler
import DocQuery.Proofs.Endpoint.Expansion
import DocQuery.Proofs.Listing.Execution
import DocQuery.Proofs.Request.Filters

/-!
# Answers to Requests for Lists

What a collection answers to a request for a list: every document of the page
with its relations expanded and without the hidden fields, and the number of
all documents that match. Relations are expanded after the page has been cut
out, so a document of the page may stand for several entries of the answer.

Where the documents have no order, there is no answer at all. So what is said of
the page of a request is said of an option, with `Response.missing` if it is not
there. A list that is returned is on the safe side: its documents have an order,
its search term was small enough, and every document of its page could be decoded
(`Profile.handle_list_of_status`).

Both a profile and a store are arbitrary here, and what is needed of them is
named where it is needed. The match has to succeed, which `Listing.Matches` says
and which follows from readable filters and a small search term. The documents
have to decode, for which it is enough that they are storable and that no path
of the request has a marked name. What the pipeline computes was said of
listings before; what this module adds are the parts that a profile decides:
which filters, fields and keys are visible, and which relations are expanded.

## Main definitions

* `Call.list`: The call for a list.
* `Profile.listingFor`: The listing that parameters ask for.
* `Profile.entries`: The entries of an answer that a document stands for.
* `Profile.paged`: The documents of the page that a request asks for.

## Theorems

* `Profile.matches_listing`, `matches_of_get?_eq_none`: The match of a request
  succeeds.
* `Profile.execute_listing`: The page that a request asks for.
* `Profile.listResponse_eq`, `listResponse_answer`: The answer to a request for
  a list.
* `Profile.listResponse_of_not_searchable`: The answer to one with a search term
  that is too large.
* `Profile.handle_call_list`, `handle_list`: The same for a call.
* `Profile.handle_list_of_not_searchable`: The same for a term that is too large.
* `Profile.handle_list_of_status`: The answer to a call, if it is one.
-/

namespace DocQuery

/-- The call for a list, with a query string. -/
def Call.list (query : List Char) : Call where
  method := "GET".toList
  target := { path := ['/'], query := some query }

/-- What holds of all documents in the collections holds of those found by
    name. -/
theorem Store.forall_documents {test : Document → Prop} (s : Store)
    (h : ∀ c ∈ s.collections, ∀ d ∈ c.2, test d) (name : String) :
    ∀ d ∈ s.documents name, test d := by
  rcases s with ⟨collections, supply, made⟩
  unfold Store.documents
  simp only at h ⊢
  induction collections with
  | nil =>
      intro d hd
      cases hd
  | cons c collections ih =>
      rw [List.forall_mem_cons] at h
      rw [Store.find]
      split
      · exact h.1
      · exact ih h.2

namespace Profile

/-- The listing that parameters ask for. -/
abbrev listingFor (p : Profile) (params : Params) : Listing :=
  p.listing (ListRequest.ofParams params)

/-- The entries of an answer that a document stands for. -/
def entries (p : Profile) (collection : String → List Document) (relations : List Relation)
    (d : Document) : List Json :=
  (Relation.expandAll collection relations d).map p.present

theorem entries_ne_nil (p : Profile) (collection : String → List Document)
    (relations : List Relation) (d : Document) : p.entries collection relations d ≠ [] := by
  unfold entries
  rw [ne_eq, List.map_eq_nil_iff]
  exact Relation.expandAll_ne_nil collection relations d

theorem mem_relations_of_mem_relationsNamed (p : Profile) (names : List String) (r : Relation)
    (h : r ∈ p.relationsNamed names) : r ∈ p.relations := by
  rcases List.mem_filterMap.mp h with ⟨name, -, hname⟩
  exact List.mem_of_find?_eq_some hname

theorem readable_visible (p : Profile) (d : Document) (h : Filter.Readable d) :
    Filter.Readable (p.visible d) := by
  rw [Filter.readable_iff] at h ⊢
  intro entry hentry
  exact h entry (List.mem_of_mem_filter hentry)

/-- Visible keys are on distinct fields, and so is the default one. -/
theorem separate_visibleSort (p : Profile) (keys : List SortKey) (h : SortKey.Separate keys) :
    SortKey.Separate (p.visibleSort keys) := by
  have hfilter := SortKey.separate_filter keys (fun key => !p.isHidden key.field) h
  unfold visibleSort
  split
  · exact separate_defaultSort
  · exact hfilter

theorem isHidden_of_mem_visibleFields (p : Profile) (fields : List String) (field : String)
    (h : field ∈ p.visibleFields fields) : p.isHidden field = false := by
  have hvisible := (List.mem_filter.mp h).2
  rw [Bool.not_eq_true'] at hvisible
  exact hvisible

theorem mem_including (fields more : List String) (field : String)
    (h : field ∈ including fields more) : field ∈ fields ∨ field ∈ more := by
  unfold including at h
  rw [List.mem_eraseDups, List.mem_append] at h
  exact h

/-- The fields of a listing come from the request or from a relation. -/
theorem mem_fields_listing (p : Profile) (r : ListRequest) (field : String)
    (h : field ∈ (p.listing r).request.fields) :
    field ∈ p.visibleFields r.fields ∨ ∃ relation ∈ p.relations, field = relation.localField := by
  unfold listing withLocalFields at h
  simp only at h
  split at h
  · cases h
  · rcases mem_including _ _ field h with h | h
    · exact Or.inl h
    · rcases List.mem_map.mp h with ⟨relation, hrelation, rfl⟩
      exact Or.inr ⟨relation, mem_relations_of_mem_relationsNamed p _ relation hrelation, rfl⟩

/-- The documents of the page that a request asks for, with relations
    expanded, if they have an order. -/
def paged (p : Profile) (s : Store) (name : String) (r : ListRequest) : Option (List Document) :=
  ((p.listing r).shown (s.documents name)).map fun shown =>
    shown.flatMap (Relation.expandAll s.documents (p.relationsNamed r.populate))

theorem paged_of_shown_eq_some {p : Profile} {s : Store} {name : String} {r : ListRequest}
    {shown : List Document} (h : (p.listing r).shown (s.documents name) = some shown) :
    p.paged s name r =
      some (shown.flatMap (Relation.expandAll s.documents (p.relationsNamed r.populate))) := by
  rw [paged, h, Option.map_some]

/-- The match of a request succeeds if its search term is small enough. -/
theorem matches_listing (s : Store) (name : String) (p : Profile) (r : ListRequest)
    (hsearch : ∀ field ∈ p.searchFields, Filter.isOperator field = false)
    (hfilters : Filter.Readable r.filters) (hterm : Listing.Searchable r.search p.searchFields) :
    (p.listing r).Matches s name :=
  Listing.matches_of_searchable s name (p.listing r) (readable_visible p _ hfilters) hsearch hterm

/-- It succeeds without a search term. -/
theorem matches_of_get?_eq_none (s : Store) (name : String) (p : Profile) {params : Params}
    (h : params.get? "search" = none) : (p.listingFor params).Matches s name := by
  refine Listing.matches_unsearched s name _ (readable_visible p _ (Request.readable_filters _)) ?_
  have hsearch : (p.listingFor params).request.search =
      String.ofList ((params.get? "search").getD []) := rfl
  rw [hsearch, h]
  rfl

/-- The page that a request asks for. Its documents have to have an order and to
    decode. -/
theorem execute_listing {s : Store} {name : String} {p : Profile} {r : ListRequest}
    (hmatch : (p.listing r).Matches s name) (hsort : SortKey.Separate r.sort) :
    (p.listing r).execute (s.answer name) =
      (p.paged s name r).elim (.error .stopped) fun docs =>
        match docs.mapM Document.decode? with
        | some data =>
          .ok ⟨data, min ((p.listing r).found (s.documents name)).length Value.maxInt64⟩
        | none => .error .decode := by
  have hsort' := separate_visibleSort p _ hsort
  rcases hshown : (p.listing r).shown (s.documents name) with _ | shown
  · rw [Listing.execute_of_shown_eq_none rfl hsort' hmatch hshown, paged, hshown]
    rfl
  · rw [Listing.execute_eq rfl hsort' hmatch hshown
      (Relation.runAll_expansion s.documents (p.relationsNamed r.populate) shown),
      paged_of_shown_eq_some hshown]
    rfl

/-- The answer to a request for a list. -/
theorem listResponse_eq {s : Store} {name : String} {p : Profile} {r : ListRequest}
    (hmatch : (p.listing r).Matches s name) (hsort : SortKey.Separate r.sort) :
    p.listResponse r (s.answer name (p.listing r).compile) =
      (p.paged s name r).elim .missing fun docs => match docs.mapM Document.decode? with
        | some data => .ok p.retrieved (.array (data.map p.present)) (some (.make r.page r.limit
            (min ((p.listing r).found (s.documents name)).length Value.maxInt64)))
        | none => .failure .decode := by
  have hexecute := execute_listing hmatch hsort
  unfold Listing.execute at hexecute
  unfold listResponse
  rw [hexecute]
  cases p.paged s name r with
  | none => rfl
  | some docs =>
      simp only [Option.elim_some]
      cases docs.mapM Document.decode? with
      | none => rfl
      | some data => rfl

/-- The documents of a page are storable if what is stored is and no path of the
    request has a marked name. -/
theorem storable_paged (s : Store) (name : String) (p : Profile) (r : ListRequest)
    (hstore : ∀ name, ∀ d ∈ s.documents name, d.Storable)
    (hrelations : ∀ relation ∈ p.relations, (Path.ofString relation.name).isMarked = false ∧
      (Path.ofString relation.localField).isMarked = false)
    (hfields : ∀ field ∈ r.fields, (Path.ofString field).isMarked = false) :
    ∀ docs, p.paged s name r = some docs → ∀ d ∈ docs, d.Storable := by
  have hnames : ∀ relation ∈ p.relationsNamed r.populate,
      (Path.ofString relation.name).isMarked = false := by
    intro relation hrelation
    exact (hrelations relation (mem_relations_of_mem_relationsNamed p _ relation hrelation)).1
  have hkept : ∀ field ∈ (p.listing r).request.fields,
      (Path.ofString field).isMarked = false := by
    intro field hfield
    rcases mem_fields_listing p r field hfield with h | ⟨relation, hrelation, rfl⟩
    · exact hfields field (List.mem_of_mem_filter h)
    · exact (hrelations relation hrelation).2
  intro docs hdocs d hd
  rcases Option.map_eq_some_iff.mp hdocs with ⟨shown, hshown, rfl⟩
  rcases List.mem_flatMap.mp hd with ⟨e, he, hd⟩
  rcases Listing.mem_of_mem_shown hshown he with ⟨f, hf, rfl⟩
  have hpick := Document.sound_pick _ _ f (hstore name f hf) hkept
  exact Relation.sound_expandAll s.documents _ _ hnames (fun relation _ => hstore _) _ hpick d hd

/-- The answer to a request for a list over a store of storable documents. -/
theorem listResponse_answer (s : Store) (name : String) (p : Profile) (r : ListRequest)
    (hstore : ∀ name, ∀ d ∈ s.documents name, d.Storable)
    (hrelations : ∀ relation ∈ p.relations, (Path.ofString relation.name).isMarked = false ∧
      (Path.ofString relation.localField).isMarked = false)
    (hmatch : (p.listing r).Matches s name) (hsort : SortKey.Separate r.sort)
    (hfields : ∀ field ∈ r.fields, (Path.ofString field).isMarked = false) :
    p.listResponse r (s.answer name (p.listing r).compile) =
      ((p.listing r).shown (s.documents name)).elim .missing fun shown =>
        .ok p.retrieved
          (.array (shown.flatMap (p.entries s.documents (p.relationsNamed r.populate))))
          (some (.make r.page r.limit
            (min ((p.listing r).found (s.documents name)).length Value.maxInt64))) := by
  have hstorable := storable_paged s name p r hstore hrelations hfields
  rw [listResponse_eq hmatch hsort]
  rcases hshown : (p.listing r).shown (s.documents name) with _ | shown
  · rw [paged, hshown]
    rfl
  · -- What is on the page is storable, so decoding gives it back.
    have hpaged := paged_of_shown_eq_some hshown
    rw [hpaged, Option.elim_some, Document.mapM_decode?_of_storable _ (hstorable _ hpaged)]
    simp only [List.map_flatMap]
    rfl

/-- A request with a search term that is too large fails. -/
theorem listResponse_of_not_searchable (s : Store) (name : String) (p : Profile) (r : ListRequest)
    (hsearch : ∀ field ∈ p.searchFields, Filter.isOperator field = false)
    (hfilters : Filter.Readable r.filters)
    (hterm : ¬Listing.Searchable r.search p.searchFields) :
    p.listResponse r (s.answer name (p.listing r).compile) =
      .failure (.store (PipelineError.filter .largePattern).message) := by
  have hanswer : s.answer name (p.listing r).compile = _ :=
    Listing.answer_of_not_searchable rfl (readable_visible p _ hfilters) hsearch hterm
  rw [listResponse, hanswer]
  rfl

/-- The plan for a call for a list. -/
theorem plan_call_list (p : Profile) (query : List Char) :
    p.plan (Call.list query) = .ask (p.listingFor (Params.parse query)).compile
      (p.listResponse (ListRequest.ofParams (Params.parse query))) := by
  have hroute : route ['/'] = .list := by decide
  unfold plan Call.list
  rw [if_neg (not_not_intro rfl)]
  simp only [hroute, Option.getD_some]

/-- A call for a list is a request for a list. -/
theorem handle_call_list (p : Profile) (query : List Char) (store : List Document → Answer) :
    p.handle (Call.list query) store =
      p.listResponse (ListRequest.ofParams (Params.parse query))
        (store (p.listingFor (Params.parse query)).compile) := by
  rw [handle, plan_call_list, Plan.run]

/-- A call for a list with a search term that is too large fails. -/
theorem handle_list_of_not_searchable (p : Profile) (s : Store) (name : String)
    (query : List Char) {r : ListRequest} (hr : ListRequest.ofParams (Params.parse query) = r)
    (hsearch : ∀ field ∈ p.searchFields, Filter.isOperator field = false)
    (hterm : ¬Listing.Searchable r.search p.searchFields) :
    p.handle (Call.list query) (s.answer name) =
      .failure (.store (PipelineError.filter .largePattern).message) := by
  subst hr
  rw [handle_call_list]
  exact listResponse_of_not_searchable s name p _ hsearch (Request.readable_filters _) hterm

/-- A list that is returned has the page that the request asks for, whatever
    is stored and whatever the profile is. -/
theorem handle_list_of_status (p : Profile) (s : Store) (name : String) (query : List Char)
    (r : ListRequest) (hr : ListRequest.ofParams (Params.parse query) = r)
    (hstatus : (p.handle (Call.list query) (s.answer name)).status = 200) :
    ∃ shown data, (p.listing r).shown (s.documents name) = some shown ∧
      (shown.flatMap (Relation.expandAll s.documents (p.relationsNamed r.populate))).mapM
        Document.decode? = some data ∧
      p.handle (Call.list query) (s.answer name) =
        .ok p.retrieved (.array (data.map p.present)) (some (.make r.page r.limit
          (min ((p.listing r).found (s.documents name)).length Value.maxInt64))) := by
  have hsort : SortKey.Separate r.sort := hr ▸ Request.separate_sort (Params.parse query)
  rw [handle_call_list, listingFor, hr] at hstatus ⊢
  rcases Listing.matches_or_error s name (p.listing r) with hmatch | ⟨error, hmatch⟩
  swap
  · -- If the match fails, nothing is returned.
    rw [Listing.answer_of_error rfl hmatch] at hstatus
    exact absurd (show 500 = 200 from hstatus) (by decide)
  rw [listResponse_eq hmatch hsort] at hstatus ⊢
  -- A response that is not there has no status, which counts as zero.
  rcases hshown : (p.listing r).shown (s.documents name) with _ | shown
  · rw [paged, hshown] at hstatus
    exact absurd (show 0 = 200 from hstatus) (by decide)
  rw [paged_of_shown_eq_some hshown, Option.elim_some] at hstatus ⊢
  rcases hdecode : (shown.flatMap (Relation.expandAll s.documents
      (p.relationsNamed r.populate))).mapM Document.decode? with _ | data
  · rw [hdecode] at hstatus
    exact absurd (show 500 = 200 from hstatus) (by decide)
  · exact ⟨shown, data, rfl, hdecode, rfl⟩

/-- The answer to a call for a list. -/
theorem handle_list (s : Store) (name : String) (p : Profile) (query : List Char) (r : ListRequest)
    (hr : ListRequest.ofParams (Params.parse query) = r)
    (hstore : ∀ name, ∀ d ∈ s.documents name, d.Storable)
    (hrelations : ∀ relation ∈ p.relations, (Path.ofString relation.name).isMarked = false ∧
      (Path.ofString relation.localField).isMarked = false)
    (hmatch : (p.listing r).Matches s name)
    (hfields : ∀ field ∈ r.fields, (Path.ofString field).isMarked = false) :
    p.handle (Call.list query) (s.answer name) =
      ((p.listing r).shown (s.documents name)).elim .missing fun shown =>
        .ok p.retrieved
          (.array (shown.flatMap (p.entries s.documents (p.relationsNamed r.populate))))
          (some (.make r.page r.limit
            (min ((p.listing r).found (s.documents name)).length Value.maxInt64))) := by
  rw [handle_call_list]
  subst hr
  exact listResponse_answer s name p _ hstore hrelations hmatch
    (Request.separate_sort (Params.parse query)) hfields

end Profile

end DocQuery
