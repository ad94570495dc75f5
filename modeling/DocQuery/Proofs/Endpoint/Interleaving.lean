import DocQuery.Proofs.Endpoint.Pages
import DocQuery.Proofs.Request.Parameters

/-!
# The Order of Parameters

The order in which different parameters stand in a query string makes no
difference for a list. All that counts is which values each name has, and in
which order it has them. Query strings that agree on this are answered with the
same response, over every store and for every profile.

Such query strings ask for the same request, but for the order of its filters.
This order decides how the match is written and nothing else: all filters can
be read, and a document has to satisfy each of them. A search may still make
the match fail, and then it fails in the same way.

Nothing is asked of the store or the profile, so the proof may not use that a
match succeeds, that documents decode or that they have an order. It compares
the two pipelines stage by stage instead. They differ in one stage, the match,
and the two matches are shown to do the same to all documents, in success and in
failure; the rest of both pipelines is the same text and need not be understood.

## Main definitions

* `SameValues`: Pairs that differ in how different names interleave.

## Theorems

* `sameValues_swap`: Neighbours with different names can change places.
* `Request.perm_filters`, `ListRequest.ofParams_of_sameValues`: The requests
  differ in the order of the filters only.
* `Listing.runAll_matchStage_congr`, `answer_congr`: The order of filters makes
  no difference.
* `Profile.handle_list_of_sameValues`: The responses are the same.
-/

namespace DocQuery

section Pairs

variable {α β : Type} [DecidableEq α]

/-- Lists of names with values in which every name has the same values in the
    same order. They differ in how different names interleave. -/
def SameValues (pairs other : List (α × β)) : Prop :=
  ∀ name, valuesOf pairs name = valuesOf other name

/-- Neighbours with different names can change places. -/
theorem sameValues_swap (before after : List (α × β)) (p q : α × β) (h : p.1 ≠ q.1) :
    SameValues (before ++ p :: q :: after) (before ++ q :: p :: after) := by
  intro name
  have hswap : valuesOf (p :: q :: after) name = valuesOf (q :: p :: after) name := by
    unfold valuesOf
    -- At most one of the two has the name, so there is nothing to change places with.
    by_cases hp : p.1 = name
    · have hq : q.1 ≠ name := fun hq => h (hp.trans hq.symm)
      simp [hp, hq]
    · simp [List.filter_cons, hp]
  rw [valuesOf_append, valuesOf_append, hswap]

end Pairs

theorem sameValues_map_ofList (pairs other : List (List Char × List Char))
    (h : SameValues pairs other) :
    SameValues (pairs.map fun p => (String.ofList p.1, String.ofList p.2))
      (other.map fun p => (String.ofList p.1, String.ofList p.2)) := by
  have hvalues : ∀ (pairs : List (List Char × List Char)) (name : String),
      valuesOf (pairs.map fun p => (String.ofList p.1, String.ofList p.2)) name =
        (valuesOf pairs name.toList).map String.ofList := by
    intro pairs name
    have hname : ∀ p : List Char × List Char,
        (String.ofList p.1 = name) = (p.1 = name.toList) := by
      intro p
      rw [eq_iff_iff]
      constructor
      · rintro rfl
        rw [String.toList_ofList]
      · intro hp
        rw [hp, String.ofList_toList]
    unfold valuesOf
    rw [List.filter_map, List.map_map, List.map_map]
    simp only [Function.comp_def, hname]
  intro name
  rw [hvalues, hvalues, h]

section Requests

variable {pairs other : List (String × String)} (h : SameValues pairs other)

include h

theorem Params.values?_of_sameValues (name : String) :
    values? (ofPairs pairs) name = values? (ofPairs other) name := by
  rw [values?_ofPairs, values?_ofPairs, h]

/-- The filters are the same, in another order perhaps. -/
theorem Request.perm_filters :
    (filters (Params.ofPairs pairs)).Perm (filters (Params.ofPairs other)) := by
  -- Names are distinct on both sides, so it is enough to compare the values under each.
  apply Document.perm_of_get?_eq _ _ (distinct_filters _) (distinct_filters _)
  intro name
  rw [get?_filters _ (Params.nodup_names_ofPairs pairs),
    get?_filters _ (Params.nodup_names_ofPairs other), Params.values?_of_sameValues h]

/-- The requests differ in their filters only. -/
theorem ListRequest.ofParams_of_sameValues :
    ofParams (Params.ofPairs other) =
      { ofParams (Params.ofPairs pairs) with
        filters := Request.filters (Params.ofPairs other) } := by
  apply ofParams_of_get?_eq
  intro name _
  unfold Params.get?
  rw [Params.values?_of_sameValues h]

end Requests

namespace Filter

/-- Matching filters that accept the same documents comes to the same, whatever
    else has to be matched. -/
theorem run_match_congr (collection : String → List Document) (filter other : Document)
    (clauses : List Document) (hfilter : Readable filter) (hother : Readable other)
    (h : ∀ d, accepts filter d = accepts other d) (docs : List Document) :
    Stage.run collection (Stage.ofDocument
        [("$match", .document [("$and", .array ((filter :: clauses).map .document))])]) docs =
      Stage.run collection (Stage.ofDocument
        [("$match", .document [("$and", .array ((other :: clauses).map .document))])]) docs := by
  rcases hfilter with ⟨f, hf⟩
  rcases hother with ⟨g, hg⟩
  rw [ofDocument_match_eq, ofDocument_match_eq, Stage.ofFilterDocument, Stage.ofFilterDocument,
    read_match _ (List.cons_ne_nil filter clauses), read_match _ (List.cons_ne_nil other clauses),
    List.mapM_cons, List.mapM_cons, hf, hg]
  -- The other clauses fail in the same way, or leave the same documents.
  rcases clauses.mapM read with e | fs
  · rfl
  · have hholds : (all (f :: fs)).holds = (all (g :: fs)).holds := by
      funext d
      have hd := h d
      rw [accepts_of_read filter f hf, accepts_of_read other g hg] at hd
      rw [holds, holds, holdsAll, holdsAll, hd]
    simp only [bind, Except.bind, pure, Except.pure, Except.map, Stage.run, hholds]

end Filter

/-- Stages that come to the same can take the place of each other in a
    pipeline. -/
theorem Store.answer_of_runAll_eq (s : Store) (name : String)
    (before stages other after : List Document)
    (h : ∀ docs, Stage.runAll s.documents (stages.map Stage.ofDocument) docs =
      Stage.runAll s.documents (other.map Stage.ofDocument) docs) :
    s.answer name (before ++ stages ++ after) = s.answer name (before ++ other ++ after) := by
  have hrun : Stage.runAll s.documents (stages.map Stage.ofDocument) =
      Stage.runAll s.documents (other.map Stage.ofDocument) := funext h
  unfold answer aggregate
  simp only [List.map_append, Stage.runAll_append, hrun]

namespace Listing

/-- The order of the filters makes no difference for a match. -/
theorem runAll_matchStage_congr (collection : String → List Document) (filters other : Document)
    (search : Option Document) (hperm : filters.Perm other) (hreadable : Filter.Readable filters)
    (docs : List Document) :
    Stage.runAll collection ((matchStage? filters search).toList.map Stage.ofDocument) docs =
      Stage.runAll collection ((matchStage? other search).toList.map Stage.ofDocument) docs := by
  have hother : Filter.Readable other := by
    rw [Filter.readable_iff] at hreadable ⊢
    intro p hp
    exact hreadable p (hperm.mem_iff.mpr hp)
  -- Without filters there is no clause for them, in whatever order they stand.
  rcases filters with _ | ⟨p, filters⟩
  · rw [hperm.nil_eq]
  rcases other with _ | ⟨q, other⟩
  · cases hperm.eq_nil
  · have hrun := Filter.run_match_congr collection (p :: filters) (q :: other) search.toList
      hreadable hother (Filter.accepts_perm _ _ hperm) docs
    -- With filters there is one stage, whose first clause they are.
    have hstage : ∀ d : Document, d ≠ [] → (matchStage? d search).toList =
        [[("$match", .document [("$and", .array ((d :: search.toList).map .document))])]] := by
      intro d hd
      rw [matchStage?, List.isEmpty_eq_false_iff.mpr hd]
      rfl
    rw [hstage _ (List.cons_ne_nil p filters), hstage _ (List.cons_ne_nil q other)]
    simp only [List.map_singleton, Stage.runAll, hrun]

/-- A listing with other filters of the request. -/
def withFilters (l : Listing) (filters : Document) : Listing :=
  { l with request := { l.request with filters } }

/-- The order of the filters of a request makes no difference for the answer of
    a store. -/
theorem answer_congr (s : Store) (name : String) (l : Listing) (other : Document)
    (hperm : l.filters.Perm (l.withFilters other).filters)
    (hreadable : Filter.Readable l.filters) :
    s.answer name l.compile = s.answer name (l.withFilters other).compile := by
  have hmatch : ∀ docs, Stage.runAll s.documents (l.matchStages.map Stage.ofDocument) docs =
      Stage.runAll s.documents ((l.withFilters other).matchStages.map Stage.ofDocument) docs :=
    runAll_matchStage_congr s.documents _ _ _ hperm hreadable
  exact s.answer_of_runAll_eq name l.stagesBefore _ _ _ hmatch

end Listing

namespace Profile

theorem withFilters_listing (p : Profile) (r : ListRequest) (filters : Document) :
    (p.listing r).withFilters (p.visible filters) = p.listing { r with filters := filters } :=
  rfl

/-- The filters of a request are only in its pipeline. -/
theorem listResponse_filters (p : Profile) (r : ListRequest) (filters : Document)
    (answer : Answer) :
    p.listResponse { r with filters := filters } answer = p.listResponse r answer :=
  rfl

/-- The order in which different parameters stand in a query string makes no
    difference for a list: where every name has the same values in the same
    order, the responses are the same. -/
theorem handle_list_of_sameValues (p : Profile) (s : Store) (name : String)
    (query other : List Char)
    (h : SameValues (Text.FormEncoding.pairs query) (Text.FormEncoding.pairs other)) :
    p.handle (Call.list query) (s.answer name) = p.handle (Call.list other) (s.answer name) := by
  have hsame := sameValues_map_ofList _ _ h
  have hperm : (p.listingFor (Params.parse query)).filters.Perm
      (p.visible (Request.filters (Params.parse other))) :=
    (Request.perm_filters hsame).filter _
  have hreadable : Filter.Readable (p.listingFor (Params.parse query)).filters :=
    p.readable_visible _ (Request.readable_filters (Params.parse query))
  have hrequest : ListRequest.ofParams (Params.parse other) =
      { ListRequest.ofParams (Params.parse query) with
        filters := Request.filters (Params.parse other) } :=
    ListRequest.ofParams_of_sameValues hsame
  rw [handle_call_list, handle_call_list, listingFor, listingFor,
    Listing.answer_congr s name _ (p.visible (Request.filters (Params.parse other))) hperm
      hreadable, hrequest, withFilters_listing]
  exact (p.listResponse_filters _ (Request.filters (Params.parse other)) _).symm

/-- Two query strings that ask for the same filters in different orders. -/
theorem handle_list_of_sameValues_sample :
    SameValues (Text.FormEncoding.pairs "team=gte&name=Ann&team=7".toList)
        (Text.FormEncoding.pairs "name=Ann&team=gte&team=7".toList) ∧
      (Request.filters (Params.parse "team=gte&name=Ann&team=7".toList)).keys ≠
        (Request.filters (Params.parse "name=Ann&team=gte&team=7".toList)).keys ∧
      sampleProfile.handle (Call.list "team=gte&name=Ann&team=7".toList)
          (sampleStore.answer "people") =
        sampleProfile.handle (Call.list "name=Ann&team=gte&team=7".toList)
          (sampleStore.answer "people") := by
  have hteam : Text.FormEncoding.pairs "team=gte".toList = [("team".toList, "gte".toList)] :=
    Text.FormEncoding.pairs_literal "team".toList "gte".toList (by decide) (by decide)
  have hname : Text.FormEncoding.pairs "name=Ann".toList = [("name".toList, "Ann".toList)] :=
    Text.FormEncoding.pairs_literal "name".toList "Ann".toList (by decide) (by decide)
  have hseven : Text.FormEncoding.pairs "team=7".toList = [("team".toList, "7".toList)] :=
    Text.FormEncoding.pairs_literal "team".toList "7".toList (by decide) (by decide)
  have hfirst : Text.FormEncoding.pairs "team=gte&name=Ann&team=7".toList =
      [("team".toList, "gte".toList), ("name".toList, "Ann".toList),
        ("team".toList, "7".toList)] := by
    have hquery : "team=gte&name=Ann&team=7".toList =
        "team=gte".toList ++ '&' :: ("name=Ann".toList ++ '&' :: "team=7".toList) := rfl
    rw [hquery, Text.FormEncoding.pairs_append, Text.FormEncoding.pairs_append, hteam, hname,
      hseven]
    rfl
  have hsecond : Text.FormEncoding.pairs "name=Ann&team=gte&team=7".toList =
      [("name".toList, "Ann".toList), ("team".toList, "gte".toList),
        ("team".toList, "7".toList)] := by
    have hquery : "name=Ann&team=gte&team=7".toList =
        "name=Ann".toList ++ '&' :: ("team=gte".toList ++ '&' :: "team=7".toList) := rfl
    rw [hquery, Text.FormEncoding.pairs_append, Text.FormEncoding.pairs_append, hteam, hname,
      hseven]
    rfl
  have hsame : SameValues (Text.FormEncoding.pairs "team=gte&name=Ann&team=7".toList)
      (Text.FormEncoding.pairs "name=Ann&team=gte&team=7".toList) := by
    rw [hfirst, hsecond]
    exact sameValues_swap [] _ _ _ (by decide)
  refine ⟨hsame, ?_, handle_list_of_sameValues _ _ _ _ _ hsame⟩
  rw [Params.parse, Params.parse, hfirst, hsecond]
  decide

end Profile

end DocQuery
