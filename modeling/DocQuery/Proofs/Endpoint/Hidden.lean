import DocQuery.Proofs.Endpoint.Answer
import DocQuery.Proofs.Endpoint.Lookup
import DocQuery.Proofs.Endpoint.Redaction
import DocQuery.Proofs.Sorting.Map

/-!
# Hidden Fields Have No Influence

No response depends on a hidden field. Two stores that differ in hidden fields
of the collection that is served, in their values or in whether they are there,
give the same response to every call.

The filters, the order and the search of a listing read visible paths only. So
to remove the hidden fields first and then to match and to sort gives the same
as to match and to sort first, and the sort fails over both stores or over none.
A search term that is too large fails whatever is stored. What remains of the
documents of a page is therefore the same over both stores, and nothing else is
returned.

The proof follows the two stores side by side through the pipeline. Up to the
projection their documents differ in hidden fields, and `redact` makes them
equal. From there one of two things happens. If fields are picked, only visible
ones are, and the documents are equal from then on. If all fields are kept, the
documents stay equal after redaction, through the expansion of relations and up
to the end, where they are redacted. Decoding is the point where the second case
needs more: it has to succeed over both stores, and it does as all that is
stored is storable.

## Theorems

* `Profile.meets_congr`, `compare_congr`: What a listing reads.
* `Profile.map_redact_found`, `map_redact_ordered`: Matching and sorting after
  removing.
* `Profile.listResponse_congr`: The response to a request for a list.
* `Profile.singleResponse_congr`: The response to one for a single document.
* `Profile.handle_congr`: The response to any call.
-/

namespace DocQuery

namespace Profile

section Reading

variable (p : Profile) (hdot : ∀ field ∈ p.hiddenFields, '.' ∉ field.toList)

include hdot

/-- Whether a document matches a listing is decided by what remains of it. -/
theorem meets_congr (params : Params)
    (hsearch : ∀ field ∈ p.searchFields, p.isHidden field = false ∧
      Filter.isOperator field = false)
    (hterm : Listing.Searchable (ListRequest.ofParams params).search p.searchFields)
    (d e : Document) (h : p.redact d = p.redact e) :
    (p.listingFor params).meets d = (p.listingFor params).meets e := by
  have hreadable := p.readable_visible _ (Request.readable_filters params)
  -- Conditions on hidden fields have been dropped, and the others read visible paths.
  have hentries : ∀ entry ∈ p.visible (Request.filters params),
      Filter.entryHolds d entry = Filter.entryHolds e entry := by
    intro entry hentry
    rcases List.mem_filter.mp hentry with ⟨hmem, hvisible⟩
    rw [Bool.not_eq_true'] at hvisible
    exact Request.entryHolds_congr params entry hmem d e (p.at?_congr hdot _ hvisible d e h)
  have hfilters : Filter.accepts (p.visible (Request.filters params)) d =
      Filter.accepts (p.visible (Request.filters params)) e := by
    rw [Filter.accepts_eq_all _ hreadable, Filter.accepts_eq_all _ hreadable, Bool.eq_iff_iff,
      List.all_eq_true, List.all_eq_true]
    exact forall₂_congr fun entry hentry => by rw [hentries entry hentry]
  have hmarked : ∀ field ∈ p.searchFields, Filter.isOperator field = false :=
    fun field hfield => (hsearch field hfield).2
  have hfinds : ∀ term, p.searchFields.any (Listing.finds term d) =
      p.searchFields.any (Listing.finds term e) := by
    intro term
    rw [Bool.eq_iff_iff, List.any_eq_true, List.any_eq_true]
    refine exists_congr fun field => and_congr_right fun hfield => ?_
    unfold Listing.finds
    rw [p.at?_congr hdot field (hsearch field hfield).1 d e h]
  have hsame : Listing.meetsSearch (ListRequest.ofParams params).search p.searchFields d =
      Listing.meetsSearch (ListRequest.ofParams params).search p.searchFields e := by
    rw [Listing.meetsSearch_eq _ _ hterm hmarked, Listing.meetsSearch_eq _ _ hterm hmarked, hfinds]
  exact congrArg₂ (· && ·) hfilters hsame

/-- The order of two documents is decided by what remains of them. -/
theorem compare_congr (keys : List SortKey) (hkeys : ∀ key ∈ keys, p.isHidden key.field = false)
    (a b a' b' : Document) (ha : p.redact a = p.redact a') (hb : p.redact b = p.redact b') :
    (SortKeys.ofKeys keys).compare a b = (SortKeys.ofKeys keys).compare a' b' := by
  unfold SortKeys.ofKeys SortKeys.compare
  induction keys with
  | nil => rfl
  | cons key keys ih =>
      rw [List.forall_mem_cons] at hkeys
      -- The first key reads a visible path in both documents, and the others do so by
      -- induction.
      simp only [List.map_cons, List.foldr_cons] at ih ⊢
      rw [ih hkeys.2, p.at?_congr hdot key.field hkeys.1 a a' ha,
        p.at?_congr hdot key.field hkeys.1 b b' hb]

/-- To sort and then to remove hidden fields is to remove them first. -/
theorem map_redact_sort (keys : List SortKey) (hkeys : ∀ key ∈ keys, p.isHidden key.field = false)
    (docs : List Document) :
    ((SortKeys.ofKeys keys).sort docs).map (List.map p.redact) =
      (SortKeys.ofKeys keys).sort (docs.map p.redact) := by
  have hpulled : Sorting.pulled p.redact
      (fun a b => (SortKeys.ofKeys keys).compare a b == .lt) =
        fun a b => (SortKeys.ofKeys keys).compare a b == .lt := by
    funext a b
    have hcompare := p.compare_congr hdot keys hkeys _ _ a b (p.redact_redact a)
      (p.redact_redact b)
    exact congrArg (fun o => o == Ordering.lt) hcompare
  unfold SortKeys.sort
  rw [Sorting.sortBy_map, hpulled]

/-- The keys of the order are visible, if the default one is. -/
theorem isHidden_visibleSort (hcreated : "createdAt" ∉ p.hiddenFields) (keys : List SortKey) :
    ∀ key ∈ p.visibleSort keys, p.isHidden key.field = false := by
  intro key hkey
  unfold visibleSort at hkey
  split at hkey
  · rw [defaultSort, List.mem_singleton] at hkey
    have hfirst : Path.first "createdAt" = "createdAt" := by decide
    rw [hkey, ← Bool.not_eq_true, p.isHidden_iff hdot, hfirst]
    exact hcreated
  · have hvisible := (List.mem_filter.mp hkey).2
    rw [Bool.not_eq_true'] at hvisible
    exact hvisible

section Matching

variable (hcreated : "createdAt" ∉ p.hiddenFields) (params : Params)
  (hsearch : ∀ field ∈ p.searchFields, p.isHidden field = false ∧
    Filter.isOperator field = false)
  (hterm : Listing.Searchable (ListRequest.ofParams params).search p.searchFields)

include hsearch hterm

/-- The documents that match a listing: to remove hidden fields before or after
    makes no difference. -/
theorem map_redact_found (docs : List Document) :
    ((p.listingFor params).found docs).map p.redact =
      (p.listingFor params).found (docs.map p.redact) := by
  unfold Listing.found
  rw [List.filter_map]
  congr 1
  apply List.filter_congr
  intro d _
  exact p.meets_congr hdot params hsearch hterm _ _ (p.redact_redact d).symm

include hcreated

/-- It makes none to the order in which they are, or to whether they have one. -/
theorem map_redact_ordered (docs : List Document) :
    ((p.listingFor params).ordered docs).map (List.map p.redact) =
      (p.listingFor params).ordered (docs.map p.redact) := by
  unfold Listing.ordered
  rw [← p.map_redact_found hdot params hsearch hterm]
  exact p.map_redact_sort hdot _ (p.isHidden_visibleSort hdot hcreated _) _

end Matching

end Reading

/-- Documents are presented by what remains of them. -/
theorem map_present_congr (p : Profile) (xs ys : List Document)
    (h : xs.map p.redact = ys.map p.redact) : xs.map p.present = ys.map p.present := by
  have hpresent : ∀ zs : List Document, zs.map p.present =
      (zs.map p.redact).map fun d => (Value.document d).plain := by
    intro zs
    rw [List.map_map]
    rfl
  rw [hpresent, hpresent, h]

section Responses

variable (p : Profile) (s t : Store) (name : String)
  (hdot : ∀ field ∈ p.hiddenFields, '.' ∉ field.toList)
  (hid : "_id" ∉ p.hiddenFields) (hcreated : "createdAt" ∉ p.hiddenFields)
  (hsearch : ∀ field ∈ p.searchFields, p.isHidden field = false ∧
    Filter.isOperator field = false)
  (hrelations : ∀ relation ∈ p.relations, p.isHidden relation.localField = false ∧
    relation.collection ≠ name ∧ (Path.ofString relation.name).isMarked = false)
  (hother : ∀ other, other ≠ name → s.documents other = t.documents other)
  (hsame : (s.documents name).map p.redact = (t.documents name).map p.redact)

include hdot hid in
theorem isHidden_id : p.isHidden "_id" = false := by
  have hfirst : Path.first "_id" = "_id" := by decide
  rw [← Bool.not_eq_true, p.isHidden_iff hdot, hfirst]
  exact hid

include hrelations hother in
/-- Relations lead into other collections, which are the same in both stores. -/
theorem expandAll_documents (names : List String) :
    Relation.expandAll s.documents (p.relationsNamed names) =
      Relation.expandAll t.documents (p.relationsNamed names) := by
  funext d
  apply Relation.expandAll_congr
  intro r hr
  have hmem := p.mem_relations_of_mem_relationsNamed names r hr
  exact hother r.collection (hrelations r hmem).2.1

variable (params : Params)
  (hterm : Listing.Searchable (ListRequest.ofParams params).search p.searchFields)

include hdot hsearch hsame hterm in
theorem length_found_congr :
    ((p.listingFor params).found (s.documents name)).length =
      ((p.listingFor params).found (t.documents name)).length := by
  have hfound := p.map_redact_found hdot params hsearch hterm
  rw [← List.length_map p.redact, hfound, hsame, ← hfound, List.length_map]

include hdot hid hcreated hsearch hrelations hsame hterm in
/-- The documents of a page are the same over both stores, or all their fields
    are kept and the same remains of them. -/
theorem shown_congr :
    (p.listingFor params).shown (s.documents name) =
        (p.listingFor params).shown (t.documents name) ∨
      (∀ d : Document, d.pick (p.listingFor params).request.fields = d) ∧
        ((p.listingFor params).shown (s.documents name)).map (List.map p.redact) =
          ((p.listingFor params).shown (t.documents name)).map (List.map p.redact) := by
  have hordered : ((p.listingFor params).ordered (s.documents name)).map (List.map p.redact) =
      ((p.listingFor params).ordered (t.documents name)).map (List.map p.redact) := by
    rw [p.map_redact_ordered hdot hcreated params hsearch hterm, hsame,
      ← p.map_redact_ordered hdot hcreated params hsearch hterm]
  have hfields : ∀ field ∈ (p.listingFor params).request.fields, p.isHidden field = false := by
    intro field hfield
    rcases p.mem_fields_listing _ field hfield with h | ⟨relation, hrelation, rfl⟩
    · exact p.isHidden_of_mem_visibleFields _ field h
    · exact (hrelations relation hrelation).1
  -- Either the fields stand for all of them, or only visible ones are picked.
  rcases p.pick_congr hdot (p.isHidden_id hdot hid) _ hfields with hall | hpick
  · have hself : ∀ docs : List Document,
        docs.map (Document.pick (p.listingFor params).request.fields) = docs := by
      intro docs
      rw [List.map_congr_left fun d _ => hall d, List.map_id']
    refine Or.inr ⟨hall, ?_⟩
    have hshown : ∀ docs, ((p.listingFor params).shown docs).map (List.map p.redact) =
        (((p.listingFor params).ordered docs).map (List.map p.redact)).map
          (Listing.cut (p.listingFor params).request) := by
      intro docs
      rw [Listing.shown, Option.map_map, Option.map_map]
      congr 1
      funext sorted
      rw [Function.comp_apply, Function.comp_apply, hself, Listing.cut_map]
    rw [hshown, hshown, hordered]
  · refine Or.inl ?_
    -- Only visible fields are picked, so they can be picked from what remains.
    have hshown : ∀ docs, (p.listingFor params).shown docs =
        (((p.listingFor params).ordered docs).map (List.map p.redact)).map fun sorted =>
          Listing.cut (p.listingFor params).request
            (sorted.map (Document.pick (p.listingFor params).request.fields)) := by
      intro docs
      rw [Listing.shown, Option.map_map]
      congr 1
      funext sorted
      rw [Function.comp_apply, List.map_map]
      congr 1
      exact List.map_congr_left fun d _ => hpick _ _ (p.redact_redact d).symm
    rw [hshown, hshown, hordered]

variable (hs : ∀ other, ∀ d ∈ s.documents other, d.Storable)
  (ht : ∀ other, ∀ d ∈ t.documents other, d.Storable)

include hrelations in
/-- The documents of a page whose fields are all kept are storable. -/
theorem storable_shown (hs : ∀ other, ∀ d ∈ s.documents other, d.Storable)
    (hpick : ∀ d : Document, d.pick (p.listingFor params).request.fields = d) (names : List String)
    {shown : List Document} (hshown : (p.listingFor params).shown (s.documents name) = some shown) :
    ∀ d ∈ shown.flatMap (Relation.expandAll s.documents (p.relationsNamed names)),
      d.Storable := by
  intro d hd
  rcases List.mem_flatMap.mp hd with ⟨e, he, hd⟩
  rcases Listing.mem_of_mem_shown hshown he with ⟨f, hf, rfl⟩
  rw [hpick] at hd
  refine Relation.sound_expandAll s.documents _ _ ?_ (fun r _ => hs _) f (hs name f hf) d hd
  intro r hr
  exact (hrelations r (p.mem_relations_of_mem_relationsNamed names r hr)).2.2

include hdot hid hcreated hsearch hrelations hother hsame hs ht in
/-- The response to a request for a list is the same over both stores. -/
theorem listResponse_congr :
    p.listResponse (ListRequest.ofParams params)
        (s.answer name (p.listingFor params).compile) =
      p.listResponse (ListRequest.ofParams params)
        (t.answer name (p.listingFor params).compile) := by
  have hmarked : ∀ field ∈ p.searchFields, Filter.isOperator field = false :=
    fun field hfield => (hsearch field hfield).2
  have hfilters := Request.readable_filters params
  have hsort := Request.separate_sort params
  by_cases hterm : Listing.Searchable (ListRequest.ofParams params).search p.searchFields
  swap
  · -- A search term that is too large is so whatever is stored.
    rw [listResponse_of_not_searchable s name p _ hmarked hfilters hterm,
      listResponse_of_not_searchable t name p _ hmarked hfilters hterm]
  have hfound := p.length_found_congr s t name hdot hsearch hsame params hterm
  have hexpand := p.expandAll_documents s t name hrelations hother
    (ListRequest.ofParams params).populate
  rw [listResponse_eq (matches_listing s name p _ hmarked hfilters hterm) hsort,
    listResponse_eq (matches_listing t name p _ hmarked hfilters hterm) hsort, hfound]
  unfold paged
  rcases p.shown_congr s t name hdot hid hcreated hsearch hrelations hsame params hterm with
    hshown | ⟨hpick, hshown⟩
  · -- The documents are the same, whether they decode or not.
    rw [hexpand, hshown]
  · -- The documents are those of the store, so they decode, and the same remains of them.
    rcases hleft : (p.listingFor params).shown (s.documents name) with _ | xs
    · rw [hleft, Option.map_none, eq_comm, Option.map_eq_none_iff] at hshown
      rw [hshown]
      rfl
    rw [hleft, Option.map_some, eq_comm, Option.map_eq_some_iff] at hshown
    rcases hshown with ⟨ys, hright, hsames⟩
    have hlocal : ∀ r ∈ p.relationsNamed (ListRequest.ofParams params).populate,
        p.isHidden r.localField = false :=
      fun r hr => (hrelations r (p.mem_relations_of_mem_relationsNamed _ r hr)).1
    have hrows := map_flatMap_congr _ _ _ (p.redact_expandAll hdot t.documents _ hlocal) _ _
      hsames.symm
    rw [← hexpand] at hrows
    have hpresent := p.map_present_congr _ _ hrows
    rw [hright, Option.map_some, Option.map_some, Option.elim_some, Option.elim_some,
      Document.mapM_decode?_of_storable _
        (p.storable_shown s name hrelations params hs hpick _ hleft)]
    rw [hexpand] at hpresent ⊢
    rw [Document.mapM_decode?_of_storable _
      (p.storable_shown t name hrelations params ht hpick _ hright)]
    simp only [hpresent]

end Responses

theorem isHidden_singleFields (p : Profile) (fields : List String) (relations : List Relation)
    (hid : p.isHidden "_id" = false) (hlocal : ∀ r ∈ relations, p.isHidden r.localField = false) :
    ∀ field ∈ singleFields (p.visibleFields fields) relations, p.isHidden field = false := by
  intro field hfield
  unfold singleFields at hfield
  split at hfield
  · cases hfield
  · rcases mem_including _ _ field hfield with h | h
    · exact p.isHidden_of_mem_visibleFields _ field h
    · rcases List.mem_cons.mp h with rfl | h
      · exact hid
      · rcases List.mem_map.mp h with ⟨r, hr, rfl⟩
        exact hlocal r hr

/-- Picking visible fields keeps the same remaining of two documents. -/
theorem redact_pick_congr (p : Profile) (hdot : ∀ field ∈ p.hiddenFields, '.' ∉ field.toList)
    (hid : p.isHidden "_id" = false) (fields : List String)
    (hfields : ∀ field ∈ fields, p.isHidden field = false) (d e : Document)
    (h : p.redact d = p.redact e) : p.redact (d.pick fields) = p.redact (e.pick fields) := by
  rcases p.pick_congr hdot hid fields hfields with hall | hpick
  · rw [hall, hall, h]
  · rw [hpick d e h]

theorem singleResponse_congr (p : Profile) (xs ys : List Document)
    (h : xs.map p.redact = ys.map p.redact) :
    p.singleResponse (.ok xs) = p.singleResponse (.ok ys) := by
  rcases xs with _ | ⟨x, xs⟩
  · rw [List.map_nil, eq_comm, List.map_eq_nil_iff] at h
    rw [h]
  · rcases ys with _ | ⟨y, ys⟩
    · cases h
    · rw [List.map_cons, List.map_cons, List.cons.injEq] at h
      unfold singleResponse present
      simp only [h.1]

/-- The response to a request for a single document is the same over both
    stores. -/
theorem singleResponse_answer_congr (p : Profile) (s t : Store) (name : String)
    (hdot : ∀ field ∈ p.hiddenFields, '.' ∉ field.toList) (hid : "_id" ∉ p.hiddenFields)
    (hrelations : ∀ relation ∈ p.relations, p.isHidden relation.localField = false ∧
      relation.collection ≠ name ∧ (Path.ofString relation.name).isMarked = false)
    (hother : ∀ other, other ≠ name → s.documents other = t.documents other)
    (hsame : (s.documents name).map p.redact = (t.documents name).map p.redact)
    (id : ObjectId) (r : SingleRequest) :
    p.singleResponse (s.answer name (p.lookupPipeline id r)) =
      p.singleResponse (t.answer name (p.lookupPipeline id r)) := by
  have hvisible := p.isHidden_id hdot hid
  have hlocal : ∀ relation ∈ p.relationsNamed r.relations,
      p.isHidden relation.localField = false := fun relation hrelation =>
    (hrelations relation (p.mem_relations_of_mem_relationsNamed _ relation hrelation)).1
  have hfields := p.isHidden_singleFields r.fields _ hvisible hlocal
  -- The first document with the identifier is found at the same place in both stores.
  have hmatched : (((s.documents name).filter (hasId id)).take 1).map p.redact =
      (((t.documents name).filter (hasId id)).take 1).map p.redact := by
    have hremoved : ∀ docs : List Document, (docs.filter (hasId id)).map p.redact =
        (docs.map p.redact).filter (hasId id) := by
      intro docs
      rw [List.filter_map]
      congr 1
      apply List.filter_congr
      intro d _
      unfold hasId
      rw [Function.comp_apply,
        p.at?_congr hdot "_id" hvisible d (p.redact d) (p.redact_redact d).symm]
    rw [List.map_take, List.map_take, hremoved, hremoved, hsame]
  have hpicked := map_flatMap_congr
    (fun d => [d.pick (singleFields (p.visibleFields r.fields) (p.relationsNamed r.relations))])
    p.redact p.redact
    (fun d e h => congrArg (fun x => [x]) (p.redact_pick_congr hdot hvisible _ hfields d e h))
    _ _ hmatched
  rw [← List.map_eq_flatMap, ← List.map_eq_flatMap] at hpicked
  rw [answer_lookupPipeline, answer_lookupPipeline,
    p.expandAll_documents s t name hrelations hother]
  exact p.singleResponse_congr _ _
    (map_flatMap_congr _ _ _ (p.redact_expandAll hdot t.documents _ hlocal) _ _ hpicked)

/-- Hidden fields have no influence. Two stores that differ in nothing but
    hidden fields of the collection that is served give the same response to
    every call. -/
theorem handle_congr (p : Profile) (s t : Store) (name : String) (call : Call)
    (hdot : ∀ field ∈ p.hiddenFields, '.' ∉ field.toList)
    (hid : "_id" ∉ p.hiddenFields) (hcreated : "createdAt" ∉ p.hiddenFields)
    (hsearch : ∀ field ∈ p.searchFields, p.isHidden field = false ∧
      Filter.isOperator field = false)
    (hrelations : ∀ relation ∈ p.relations, p.isHidden relation.localField = false ∧
      relation.collection ≠ name ∧ (Path.ofString relation.name).isMarked = false)
    (hs : ∀ other, ∀ d ∈ s.documents other, d.Storable)
    (ht : ∀ other, ∀ d ∈ t.documents other, d.Storable)
    (hother : ∀ other, other ≠ name → s.documents other = t.documents other)
    (hsame : (s.documents name).map p.redact = (t.documents name).map p.redact) :
    p.handle call (s.answer name) = p.handle call (t.answer name) := by
  have hlist := p.listResponse_congr s t name hdot hid hcreated hsearch hrelations hother hsame
    (Params.parse (call.target.query.getD [])) hs ht
  have hsingle := p.singleResponse_answer_congr s t name hdot hid hrelations hother hsame
  -- The plan depends on the call alone, so there is one answer to compare for each kind of
  -- call.
  unfold handle plan
  by_cases hmethod : call.method ≠ "GET".toList
  · rw [if_pos hmethod]
    rfl
  rw [if_neg hmethod]
  cases route call.target.path with
  | list =>
      simp only [Plan.run]
      exact hlist
  | guide => rfl
  | single segment =>
      rcases hread : ObjectId.read? segment with _ | id
      · simp only [hread]
        rfl
      · simp only [hread, Plan.run]
        exact hsingle id _
  | none => rfl

/-- A store with some accounts and with teams. -/
def accountStore (accounts : List Document) : Store where
  collections := [("accounts", accounts), ("teams", [[("_id", .int32 7)]])]
  supply := .counting ⟨0⟩

/-- A profile of accounts that hides their keys. -/
def accountProfile : Profile where
  name := "accounts"
  searchFields := ["name"]
  relations := [{ name := "team", collection := "teams", localField := "team", single := true }]
  hiddenFields := ["key"]

theorem handle_congr_sample :
    accountProfile.handle (Call.list "key=1&sort=-key,name&populate=team".toList)
        ((accountStore
          [[("_id", .int32 1), ("key", .string "a"), ("name", .string "Ann"), ("team", .int32 7)],
           [("_id", .int32 2), ("name", .string "Bob")]]).answer "accounts") =
      accountProfile.handle (Call.list "key=1&sort=-key,name&populate=team".toList)
        ((accountStore
          [[("_id", .int32 1), ("name", .string "Ann"), ("team", .int32 7)],
           [("_id", .int32 2), ("name", .string "Bob"), ("key", .int32 1)]]).answer "accounts") :=
  handle_congr accountProfile (accountStore _) (accountStore _) "accounts" _ (by decide)
    (by decide) (by decide) (by decide) (by decide)
    (Store.forall_documents _ (by decide)) (Store.forall_documents _ (by decide))
    (fun other h => by simp [accountStore, Store.documents, Store.find, Ne.symm h]) (by rfl)

end Profile

end DocQuery
