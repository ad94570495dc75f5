import DocQuery.Proofs.Listing.Meaning
import DocQuery.Proofs.Pipeline.Ordering

/-!
# Base Filters

A base filter says which documents a request may see at all. No parameter gets
around it: the page has such documents only, and a parameter for a field that
the base filter has a condition on does nothing.

The documents of the page keep the order that all the documents have that the
base filter accepts, if the keys put these in an order at all. They need not,
as numbers that are no numbers are equal to all others in sorting.

Base filters are put over those of the request, entry by entry, and over each
other. So the entry for a name is that of the last base filter with a condition
on it, and only where none has one does the request count. Everything about
requests follows from that one fact about overlays: what is accepted under a
base filter satisfies each of its entries, and two requests that differ in an
overlaid entry have the same filters up to their order.

The order of the page is another matter. The documents of the page are sorted
after the others have been left out, so they are in the order of all of them
only if sorting and leaving out can change places. For a sort by transitive keys
they can, and for others there are documents where they cannot.

## Main definitions

* `Listing.mergedFilter`: Several base filters as one.
* `Listing.restricted`: The listing that parameters ask for under base filters.

## Theorems

* `Listing.exists_sublist_of_execute`: The page under base filters.
* `Listing.execute_of_without_eq`: A parameter that is overridden has no effect.
* `Listing.execute_restricted`: Both together.
* `Listing.not_sublist_unordered`: The order is lost where there is none.
-/

namespace DocQuery

namespace Document

theorem mem_overlay_of_mem (d other : Document) (h : Distinct other)
    (p : String × Value) (hp : p ∈ other) : p ∈ overlay d other := by
  rcases p with ⟨key, v⟩
  have hget := (mem_iff_get?_eq_some other h key v).mp hp
  apply mem_of_get?_eq_some
  rw [get?_overlay d other key h, hget]
  rfl

end Document

namespace Listing

/-- Several base filters as one, where the last condition on a field counts. -/
def mergedFilter (bases : List Document) : Document :=
  bases.foldl Document.overlay []

/-- The listing that parameters ask for under base filters. -/
def restricted (params : Params) (searchFields : List String) (bases : List Document) : Listing :=
  bases.foldl restrict { request := ListRequest.ofParams params, searchFields }

/-- Base filters are collected one over the other. -/
theorem foldl_restrict (l : Listing) (bases : List Document) :
    bases.foldl restrict l =
      { l with baseFilter := bases.foldl Document.overlay l.baseFilter } := by
  induction bases generalizing l with
  | nil => rfl
  | cons base bases ih =>
      rw [List.foldl_cons, ih]
      rfl

/-- A listing under several base filters is one under their overlay. -/
theorem restricted_eq (params : Params) (searchFields : List String) (bases : List Document) :
    restricted params searchFields bases =
      { request := ListRequest.ofParams params, searchFields,
        baseFilter := mergedFilter bases } :=
  foldl_restrict _ bases

theorem distinct_mergedFilter (bases : List Document) : (mergedFilter bases).Distinct := by
  have hfold : ∀ (d : Document), d.Distinct → (bases.foldl Document.overlay d).Distinct := by
    induction bases with
    | nil => exact fun _ h => h
    | cons base bases ih => exact fun d h => ih _ (Document.distinct_overlay d base h)
  exact hfold [] Document.distinct_nil

/-- The documents that base filters accept. -/
def allowed (bases docs : List Document) : List Document :=
  docs.filter fun d => Filter.accepts (mergedFilter bases) d

/-- The filters of a restricted listing can be read if the base can. -/
theorem readable_filters_restricted (params : Params) (searchFields : List String)
    (bases : List Document) (h : Filter.Readable (mergedFilter bases)) :
    Filter.Readable (restricted params searchFields bases).filters := by
  rw [restricted_eq]
  exact Filter.readable_overlay _ _ (Request.readable_filters params) h

/-- What matches a listing is accepted by its base filters. -/
theorem accepts_of_meets (params : Params) (searchFields : List String) (bases : List Document)
    (h : Filter.Readable (mergedFilter bases)) (d : Document)
    (hd : (restricted params searchFields bases).meets d = true) :
    Filter.accepts (mergedFilter bases) d = true := by
  have hreadable := readable_filters_restricted params searchFields bases h
  rw [restricted_eq] at hd hreadable
  unfold meets at hd
  rw [Bool.and_eq_true] at hd
  -- The entries of the base are among those of the filters.
  refine Filter.accepts_of_subset _ _ h hreadable ?_ d hd.1
  intro p hp
  exact Document.mem_overlay_of_mem _ _ (distinct_mergedFilter bases) p hp

/-- What is found is found among the documents that are allowed. -/
theorem found_eq_filter_allowed (params : Params) (searchFields : List String)
    (bases docs : List Document) (h : Filter.Readable (mergedFilter bases)) :
    (restricted params searchFields bases).found docs =
      (allowed bases docs).filter (restricted params searchFields bases).meets := by
  unfold found allowed
  rw [List.filter_filter]
  apply List.filter_congr
  intro d _
  -- A document that matches is allowed, so to ask for that as well changes nothing.
  rcases hd : (restricted params searchFields bases).meets d with _ | _
  · rfl
  · rw [accepts_of_meets params searchFields bases h d hd]
    rfl

/-- What a listing under base filters gives, if its match succeeds. -/
theorem execute_restricted_eq {s : Store} {name : String} {params : Params}
    {searchFields : List String} {bases : List Document}
    (hmatch : (restricted params searchFields bases).Matches s name) :
    (restricted params searchFields bases).execute (s.answer name) =
      ((restricted params searchFields bases).shown (s.documents name)).elim (.error .stopped)
        fun shown => match shown.mapM Document.decode? with
          | some data => .ok ⟨data, min ((restricted params searchFields bases).found
              (s.documents name)).length Value.maxInt64⟩
          | none => .error .decode := by
  rw [restricted_eq] at hmatch ⊢
  exact execute_eq_elim rfl (Request.separate_sort params) hmatch rfl

/-- The page under base filters has documents that they accept only. These are
    in order among themselves, and if the keys order all documents that are
    accepted, they are in that order. -/
theorem exists_sublist_of_execute (s : Store) (name : String) (params : Params)
    (searchFields : List String) (bases : List Document)
    (hstore : ∀ d ∈ s.documents name, d.Storable)
    (hbase : Filter.Readable (mergedFilter bases)) (page : Page)
    (hpage : (restricted params searchFields bases).execute (s.answer name) = .ok page) :
    page.total ≤ (allowed bases (s.documents name)).length ∧
      ∃ ds : List Document, page.data = ds.map (Document.pick (Request.fields params)) ∧
        (∃ found sorted, found.Sublist (allowed bases (s.documents name)) ∧
          (SortKeys.ofKeys (Request.sort params)).sort found = some sorted ∧ ds.Sublist sorted) ∧
        ((SortKeys.ofKeys (Request.sort params)).TransitiveOn (allowed bases (s.documents name)) →
          ∃ sorted, (SortKeys.ofKeys (Request.sort params)).sort
            (allowed bases (s.documents name)) = some sorted ∧ ds.Sublist sorted) := by
  have hrequest : (restricted params searchFields bases).request = ListRequest.ofParams params := by
    rw [restricted_eq]
  have hfound := found_eq_filter_allowed params searchFields bases (s.documents name) hbase
  rcases matches_or_error s name (restricted params searchFields bases) with
    hmatch | ⟨error, hmatch⟩
  -- A match that fails leaves no page.
  swap
  · rw [execute, answer_of_error (by rw [restricted_eq]) hmatch] at hpage
    cases hpage
  rw [execute_restricted_eq hmatch] at hpage
  rcases hshown : (restricted params searchFields bases).shown (s.documents name) with _ | shown
  · rw [hshown] at hpage
    cases hpage
  rw [hshown, Option.elim_some] at hpage
  have hsettled : ∀ d ∈ shown, d.Settled := by
    intro d hd
    rcases mem_of_mem_shown hshown hd with ⟨e, he, rfl⟩
    exact Document.settled_pick _ e (hstore e he)
  rcases hdata : shown.mapM Document.decode? with _ | data
  · rw [hdata] at hpage
    cases hpage
  rw [hdata] at hpage
  cases hpage
  -- Decoding may fail, but where it does not it changes nothing.
  have hsame := Document.eq_of_mapM_decode?_eq_some _ data hsettled hdata
  rcases shown_eq_some_iff.mp hshown with ⟨sorted, hordered, hcutting⟩
  have hsorted : (SortKeys.ofKeys (Request.sort params)).sort
      ((allowed bases (s.documents name)).filter (restricted params searchFields bases).meets) =
        some sorted := by
    rw [ordered, hrequest, hfound] at hordered
    exact hordered
  have hcut := cut_sublist (ListRequest.ofParams params) sorted
  refine ⟨?_, cut (ListRequest.ofParams params) sorted, ?_, ?_, ?_⟩
  · have hle : ((restricted params searchFields bases).found (s.documents name)).length ≤
        (allowed bases (s.documents name)).length := by
      rw [hfound]
      exact List.length_filter_le _ _
    exact Nat.le_trans (Nat.min_le_left _ _) hle
  · rw [hsame, ← hcutting, hrequest, cut_map]
    rfl
  · exact ⟨_, sorted, List.filter_sublist, hsorted, hcut⟩
  · -- Sorting what is allowed and then leaving documents out gives the same order.
    intro htransitive
    rcases SortKeys.exists_sort _ _ (.inl htransitive) with ⟨whole, hwhole⟩
    rw [SortKeys.sort_filter _ _ htransitive, hwhole, Option.map_some, Option.some.injEq] at hsorted
    refine ⟨whole, hwhole, hcut.trans ?_⟩
    rw [← hsorted]
    exact List.filter_sublist

/-- A parameter for a field that a base filter has a condition on has no
    effect. -/
theorem execute_of_without_eq (s : Store) (name : String) (params other : Params)
    (searchFields : List String) (bases : List Document)
    (hsearch : ∀ field ∈ searchFields, Filter.isOperator field = false)
    (hbase : Filter.Readable (mergedFilter bases)) (key : String)
    (hkey : Request.isFilterName key = true) (hmem : key ∈ (mergedFilter bases).keys)
    (hsame : params.without key = other.without key) :
    (restricted params searchFields bases).execute (s.answer name) =
      (restricted other searchFields bases).execute (s.answer name) := by
  have hrequest := ListRequest.ofParams_of_without_eq params other key hkey hsame
  have hget : ∀ k, (Document.overlay (Request.filters params) (mergedFilter bases)).get? k =
      (Document.overlay (Request.filters other) (mergedFilter bases)).get? k := by
    intro k
    rw [Document.get?_overlay _ _ k (distinct_mergedFilter bases),
      Document.get?_overlay _ _ k (distinct_mergedFilter bases)]
    by_cases hk : k = key
    · -- The base filter decides here.
      subst hk
      rcases hnone : (mergedFilter bases).get? k with _ | v
      · exact absurd hmem ((Document.get?_eq_none_iff _ k).mp hnone)
      · rfl
    · rw [Request.get?_filters_of_ne params other key hsame k hk]
  -- The filters agree on every name, so they have the same entries in some order.
  have hperm : (restricted params searchFields bases).filters.Perm
      (restricted other searchFields bases).filters := by
    rw [restricted_eq, restricted_eq]
    exact Document.perm_of_get?_eq _ _
      (Document.distinct_overlay _ _ (Request.distinct_filters params))
      (Document.distinct_overlay _ _ (Request.distinct_filters other)) hget
  have hmeets : (restricted params searchFields bases).meets =
      (restricted other searchFields bases).meets := by
    funext d
    have haccepts := Filter.accepts_perm _ _ hperm d
    unfold meets
    rw [haccepts, restricted_eq, restricted_eq, hrequest]
  -- The same documents match, in the same order, and the same part is shown.
  have hfound : (restricted params searchFields bases).found (s.documents name) =
      (restricted other searchFields bases).found (s.documents name) := by
    unfold found
    rw [hmeets]
  have hshown : (restricted params searchFields bases).shown (s.documents name) =
      (restricted other searchFields bases).shown (s.documents name) := by
    unfold shown ordered
    rw [hfound, restricted_eq, restricted_eq, hrequest]
    rfl
  have hfields : ∀ l : Listing, l.searchFields = searchFields →
      ∀ field ∈ l.searchFields, Filter.isOperator field = false := by
    rintro l rfl
    exact hsearch
  have hleft := readable_filters_restricted params searchFields bases hbase
  have hright := readable_filters_restricted other searchFields bases hbase
  have hterm : (ListRequest.ofParams params).search = (ListRequest.ofParams other).search := by
    rw [hrequest]
  by_cases hsearchable : Searchable (ListRequest.ofParams params).search searchFields
  · rw [execute_restricted_eq (matches_of_searchable s name _ hleft
      (hfields _ (by rw [restricted_eq])) (by rwa [restricted_eq])),
      execute_restricted_eq (matches_of_searchable s name _ hright
        (hfields _ (by rw [restricted_eq])) (by rwa [restricted_eq, ← hterm])), hshown, hfound]
  · -- A term that is too large is refused under both.
    rw [execute, execute, answer_of_not_searchable (by rw [restricted_eq]) hleft
      (hfields _ (by rw [restricted_eq])) (by rwa [restricted_eq]),
      answer_of_not_searchable (by rw [restricted_eq]) hright
        (hfields _ (by rw [restricted_eq])) (by rwa [restricted_eq, ← hterm])]

/-- A request never widens a base filter. The page counts and has documents
    that the base filter accepts only, and whatever the request says about a
    field that the base filter has a condition on is ignored. The documents of
    the page are in the order of all that are accepted if the keys put these in
    a transitive order, and no other keys keep documents in their order when
    some are left out. -/
theorem execute_restricted (s : Store) (name : String) (params : Params)
    (searchFields : List String) (bases : List Document)
    (hstore : ∀ d ∈ s.documents name, d.Storable)
    (hsearch : ∀ field ∈ searchFields, Filter.isOperator field = false)
    (hbase : Filter.Readable (mergedFilter bases)) :
    (∀ page, (restricted params searchFields bases).execute (s.answer name) = .ok page →
      page.total ≤ (allowed bases (s.documents name)).length ∧
        ∃ ds : List Document, page.data = ds.map (Document.pick (Request.fields params)) ∧
          (∃ found sorted, found.Sublist (allowed bases (s.documents name)) ∧
            (SortKeys.ofKeys (Request.sort params)).sort found = some sorted ∧
              ds.Sublist sorted) ∧
          ((SortKeys.ofKeys (Request.sort params)).TransitiveOn
              (allowed bases (s.documents name)) →
            ∃ sorted, (SortKeys.ofKeys (Request.sort params)).sort
              (allowed bases (s.documents name)) = some sorted ∧ ds.Sublist sorted)) ∧
      ((SortKeys.ofKeys (Request.sort params)).TransitiveOn (allowed bases (s.documents name)) ↔
        ∀ stored : List Document, (∀ d ∈ stored, d ∈ allowed bases (s.documents name)) →
          ∀ p : Document → Bool, ∃ part whole,
            (SortKeys.ofKeys (Request.sort params)).sort (stored.filter p) = some part ∧
              (SortKeys.ofKeys (Request.sort params)).sort stored = some whole ∧
                part.Sublist whole) ∧
      ∀ key ∈ (Request.filters params).keys, key ∈ (mergedFilter bases).keys →
        (restricted (params.without key) searchFields bases).execute (s.answer name) =
            (restricted params searchFields bases).execute (s.answer name) ∧
          ∀ values, (restricted (params.replace key values) searchFields bases).execute
              (s.answer name) =
            (restricted params searchFields bases).execute (s.answer name) := by
  refine ⟨?_, SortKeys.transitiveOn_iff _ _, ?_⟩
  · intro page hpage
    exact exists_sublist_of_execute s name params searchFields bases hstore hbase page hpage
  · intro key hkey hmem
    rcases List.mem_map.mp hkey with ⟨p, hp, rfl⟩
    have hname := (Request.mem_filters params p hp).1
    refine ⟨?_, ?_⟩
    · exact execute_of_without_eq s name _ params searchFields bases hsearch hbase p.1 hname hmem
        (Params.without_without params p.1)
    · intro values
      exact execute_of_without_eq s name _ params searchFields bases hsearch hbase p.1 hname hmem
        (Params.without_replace params p.1 values)

/-- Parameters that ask for an age that the sample filter rules out. -/
def wideningParams : Params :=
  [("age", ["99"]), ("sort", ["-age"])]

/-- Asking for an age that the base rules out is like not asking at all. -/
theorem execute_restricted_sample :
    (restricted (wideningParams.without "age") ["name"] [sampleBase]).execute
        (sampleStore.answer "people") =
      (restricted wideningParams ["name"] [sampleBase]).execute (sampleStore.answer "people") :=
  ((execute_restricted sampleStore "people" wideningParams ["name"] [sampleBase]
    (by decide) (by decide) ⟨_, rfl⟩).2.2 "age" (by decide) (by decide)).1

/-- A store in which a key is no number, so that it does not order the
    documents. -/
def unorderedStore : Store where
  collections := [("items",
    [[("_id", .int32 1), ("k", .int32 2), ("t", .string "a")],
     [("_id", .int32 2), ("k", .double ⟨0x7FF8000000000000⟩), ("t", .string "b")],
     [("_id", .int32 3), ("k", .int32 1), ("t", .string "a")]])]
  supply := .counting ⟨0⟩

/-- Parameters that keep the first and the last document of that store. -/
def unorderedParams : Params :=
  [("sort", ["k"]), ("t", ["a"])]

/-- The identifier of a document as a number. -/
def idNumber (d : Document) : Int :=
  ((d.get? "_id").bind Value.integer?).getD 0

/-- Where the keys do not order the documents, those of the page are not in the
    order of all documents. -/
theorem not_sublist_unordered :
    ∃ page sorted,
      (restricted unorderedParams [] []).execute (unorderedStore.answer "items") = .ok page ∧
        (SortKeys.ofKeys (Request.sort unorderedParams)).sort
          (allowed [] (unorderedStore.documents "items")) = some sorted ∧
        ¬∃ ds : List Document,
          page.data = ds.map (Document.pick (Request.fields unorderedParams)) ∧
            ds.Sublist sorted := by
  have hshown : ((restricted unorderedParams [] []).shown
      (unorderedStore.documents "items")).map (List.map idNumber) = some [3, 1] := by decide
  have hsorted : ((SortKeys.ofKeys (Request.sort unorderedParams)).sort
      (allowed [] (unorderedStore.documents "items"))).map (List.map idNumber) =
        some [1, 2, 3] := by
    decide
  rcases Option.map_eq_some_iff.mp hshown with ⟨shown, hpage, hnumbers⟩
  rcases Option.map_eq_some_iff.mp hsorted with ⟨sorted, hwhole, hall⟩
  -- The documents decode to themselves, so the page is the part that is shown.
  have hstorable : ∀ d ∈ shown, d.Storable := by
    intro d hd
    rcases mem_of_mem_shown hpage hd with ⟨e, he, rfl⟩
    have hstore : ∀ d ∈ unorderedStore.documents "items", d.Storable := by decide
    exact hstore e he
  have hmatch : (restricted unorderedParams [] []).Matches unorderedStore "items" :=
    matches_unsearched _ _ _ (readable_filters_restricted unorderedParams [] [] ⟨_, rfl⟩) rfl
  have hexecute := execute_of_storable rfl (Request.separate_sort unorderedParams) hmatch hpage rfl
    hstorable
  refine ⟨_, sorted, hexecute, hwhole, ?_⟩
  rintro ⟨ds, hds, hsublist⟩
  have hpick : ds.map (Document.pick (Request.fields unorderedParams)) = ds := List.map_id ds
  have hsublist' := hsublist.map idNumber
  rw [hpick] at hds
  rw [hall, ← hds, hnumbers] at hsublist'
  exact absurd hsublist' (by decide)

end Listing

end DocQuery
