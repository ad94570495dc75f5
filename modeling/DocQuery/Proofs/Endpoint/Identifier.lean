import DocQuery.Proofs.Endpoint.Status
import DocQuery.Proofs.Request.Identifier
import DocQuery.Proofs.Request.Names

/-!
# Two Ways to a Document

A document can be asked for by its identifier in the path, or in a list with the
identifier as a filter. Both select the documents with the identifier, except
for identifiers whose digits are a numeral, since a filter reads these as a
number. A list is sorted, which can fail where more than twenty documents have one
identifier.

The answers agree as well: the two pipelines keep the same fields, up to the
identifier, which is always kept, and expand the same relations. The list names
each relation once, whereas the single document is expanded as often as its
relation is named, so no relation may be named twice.

The two calls run different pipelines, one with a sort, a page and a facet and
one with a limit of one document. They are brought together in a function
`Profile.shownAs`, from a stored document to the documents that it is shown as,
through which both pipelines factor. What is left to compare is the list of
stored documents each of them selects, and for a single document with the
identifier these are the same.

## Theorems

* `Profile.answer_identified`: The answer of a store to a request for an
  identifier.
* `Profile.answer_identifier`: Both ways select the documents with the
  identifier.
* `Profile.handle_single_list`: Both ways return the same.
-/

namespace DocQuery

open Number

namespace Profile

/-- The documents that a document is shown as, with some of its fields and with
    relations expanded. -/
def shownAs (p : Profile) (collection : String → List Document) (fields : List String)
    (relations : List Relation) (d : Document) : List Document :=
  Relation.expandAll collection relations
    (d.pick (withLocalFields (p.visibleFields fields) relations))

/-- Without fields and relations, documents are shown as they are. -/
theorem flatMap_shownAs_nil (p : Profile) (collection : String → List Document)
    (docs : List Document) : docs.flatMap (p.shownAs collection [] []) = docs := by
  have hself : p.shownAs collection [] [] = fun d => [d] := rfl
  rw [hself, List.flatMap_singleton']

/-- The identifier is kept in any case, so it does not matter whether it is among
    the fields. -/
theorem pick_singleFields (fields : List String) (relations : List Relation) (d : Document) :
    d.pick (singleFields fields relations) = d.pick (withLocalFields fields relations) := by
  -- The two lists differ in the identifier only, which picking does not count as a choice.
  have hsame : (singleFields fields relations).filter (fun field => field ≠ "_id") =
      (withLocalFields fields relations).filter fun field => field ≠ "_id" := by
    unfold singleFields withLocalFields
    split
    · rfl
    · unfold including
      rw [filter_eraseDups, filter_eraseDups, List.filter_append, List.filter_append,
        List.filter_cons_of_neg (by decide)]
  unfold Document.pick
  rw [hsame]

/-- A single document is shown in the same way as a list. -/
theorem answer_lookup (p : Profile) (s : Store) (name : String) (id : ObjectId)
    (r : SingleRequest) :
    s.answer name (p.lookupPipeline id r) =
      .ok ((((s.documents name).filter (hasId id)).take 1).flatMap
        (p.shownAs s.documents r.fields (p.relationsNamed r.relations))) := by
  rw [answer_lookupPipeline, List.map_congr_left fun d _ => pick_singleFields _ _ d,
    List.flatMap_map]
  rfl

section Identified

variable (p : Profile) (s : Store) (name : String) (id : ObjectId) (params : Params)
  (hvisible : p.isHidden "_id" = false)

include hvisible

/-- A request for an identifier filters by it, if it is not hidden. -/
theorem filters_identified :
    (p.listing (ListRequest.identified id params)).filters = [("_id", .objectId id)] := by
  have hkeep : p.visible [("_id", .objectId id)] = [("_id", .objectId id)] := by
    unfold visible
    rw [List.filter_cons_of_pos (by rw [hvisible]; rfl), List.filter_nil]
  exact hkeep

/-- A request for an identifier finds the documents that have it. -/
theorem found_identified (docs : List Document) :
    (p.listing (ListRequest.identified id params)).found docs = docs.filter (hasId id) := by
  unfold Listing.found Listing.meets
  apply List.filter_congr
  intro d _
  rw [filters_identified p id params hvisible, accepts_id]
  exact Bool.and_true _

/-- The match of a request for an identifier succeeds. -/
theorem matches_identified : (p.listing (ListRequest.identified id params)).Matches s name := by
  refine Listing.matches_unsearched _ _ _ ?_ rfl
  rw [filters_identified p id params hvisible]
  exact ⟨_, rfl⟩

/-- The answer of a store to a request for an identifier. -/
theorem answer_identified :
    s.answer name (p.listing (ListRequest.identified id params)).compile =
      (p.paged s name (ListRequest.identified id params)).elim (.error .stopped) fun docs =>
        .ok [[(Listing.totalName,
            Stage.countValue ((s.documents name).filter (hasId id)).length),
          (Listing.dataName, .array (docs.map .document))]] := by
  have hsort := separate_visibleSort p _ separate_defaultSort
  have hmatch := matches_identified p s name id params hvisible
  rw [← found_identified p id params hvisible]
  -- Without an order there is no page, and the store has stopped.
  rcases hshown : (p.listing (ListRequest.identified id params)).shown (s.documents name) with
    _ | shown
  · rw [Listing.answer_of_shown_eq_none rfl hsort hmatch hshown, paged, hshown]
    rfl
  · rw [Listing.answer_compile rfl hsort hmatch hshown
      (Relation.runAll_expansion s.documents _ shown), paged_of_shown_eq_some hshown]
    rfl

/-- The page of a request for an identifier: the documents that have it, the
    latest first. -/
theorem paged_identified :
    p.paged s name (ListRequest.identified id params) =
      ((SortKeys.ofKeys defaultSort).sort ((s.documents name).filter (hasId id))).map
        (List.flatMap (p.shownAs s.documents (Request.fields params)
          (p.relationsNamed (ListRequest.identified id params).populate))) := by
  have hsort : p.visibleSort defaultSort = defaultSort := by
    unfold visibleSort defaultSort
    rcases hhidden : p.isHidden "createdAt" with _ | _
    · rw [List.filter_cons_of_pos (by rw [hhidden]; rfl), List.filter_nil]
    · rw [List.filter_cons_of_neg (by rw [hhidden]; decide), List.filter_nil]
  unfold paged Listing.shown Listing.ordered
  rw [found_identified p id params hvisible]
  have hkeys : (p.listing (ListRequest.identified id params)).request.sort =
      p.visibleSort defaultSort := rfl
  rw [hkeys, hsort, Option.map_map]
  congr 1
  funext sorted
  exact List.flatMap_map _ _ _

end Identified

/-- An identifier is read back from its digits, and a parameter with a text of
    it is a filter for it exactly if the text is no numeral. Then a list with the
    filter shows the documents that have the identifier, and the call for a
    single document looks up the first of them. -/
theorem answer_identifier (id : ObjectId) :
    ObjectId.read? id.hex = some id ∧
      ∀ text, ObjectId.read? text = some id →
        (∀ field, Request.isFilterName field = true →
          (Request.filters [(field, [String.ofList text])] = [(field, .objectId id)] ↔
            ¬IsNumeral text)) ∧
        (¬IsNumeral text → ∀ p : Profile, p.isHidden "_id" = false →
          ∃ select lookup respond respondSingle,
            p.plan (Call.list (identifierQuery text)) = .ask select respond ∧
            p.plan (Call.single text []) = .ask lookup respondSingle ∧
            ∀ (s : Store) (name : String),
              s.answer name select =
                ((SortKeys.ofKeys defaultSort).sort ((s.documents name).filter (hasId id))).elim
                  (.error .stopped) (fun sorted =>
                    .ok [[(Listing.totalName,
                        Stage.countValue ((s.documents name).filter (hasId id)).length),
                      (Listing.dataName, .array (sorted.map .document))]]) ∧
              (((s.documents name).filter (hasId id)).length ≤ 20 →
                ∃ sorted, (SortKeys.ofKeys defaultSort).sort
                  ((s.documents name).filter (hasId id)) = some sorted) ∧
              s.answer name lookup = .ok (((s.documents name).filter (hasId id)).take 1)) := by
  refine ⟨ObjectId.read?_hex id, fun text htext => ⟨fun field hfield => ?_, ?_⟩⟩
  · -- As the only filter, the text is whatever it stands for.
    rw [Request.filters_cons field text [] hfield nofun,
      ← Request.filterValue_eq_objectId_iff text id htext]
    simp
  · intro hnumeral p hvisible
    have hscalar := (Coercion.scalar?_eq_objectId_iff text id htext).mpr hnumeral
    have hrequest : ListRequest.ofParams (Params.parse (identifierQuery text)) =
        ListRequest.identified id [] :=
      (ListRequest.ofParams_identifierQuery text [] id hscalar nofun).1
    refine ⟨_, _, _, _, p.plan_call_list _, p.plan_call_single text [] id htext,
      fun s name => ⟨?_, fun hfew => SortKeys.exists_sort _ _ (.inr hfew), ?_⟩⟩
    · have hpaged : p.paged s name (ListRequest.identified id []) =
          (SortKeys.ofKeys defaultSort).sort ((s.documents name).filter (hasId id)) := by
        have hself : List.flatMap (p.shownAs s.documents (Request.fields [])
            (p.relationsNamed (ListRequest.identified id []).populate)) = fun docs => docs :=
          funext fun docs => p.flatMap_shownAs_nil s.documents docs
        rw [paged_identified p s name id [] hvisible, hself, Option.map_id']
      unfold listingFor
      rw [hrequest, answer_identified p s name id [] hvisible, hpaged]
    · have hnone : SingleRequest.ofParams (Params.parse []) = ⟨[], []⟩ := by rfl
      rw [hnone, answer_lookup]
      exact congrArg Except.ok (p.flatMap_shownAs_nil s.documents _)

/-- A text of an identifier that is no numeral, since it has several letters. -/
def letteredId : List Char := "65a1f0c2b3d4e5f601234567".toList

/-- A text of an identifier that is a numeral. -/
def numericId : List Char := "650000000000000000000000".toList

theorem answer_identifier_sample :
    Request.filters [("owner", [String.ofList letteredId])] =
        [("owner", .objectId ⟨0x65a1f0c2b3d4e5f601234567⟩)] ∧
      ∃ select lookup respond respondSingle,
        Profile.plan { name := "users" } (Call.list (identifierQuery letteredId)) =
          .ask select respond ∧
        Profile.plan { name := "users" } (Call.single letteredId []) = .ask lookup respondSingle ∧
        ∀ (s : Store) (name : String),
          s.answer name select =
            ((SortKeys.ofKeys defaultSort).sort ((s.documents name).filter
              (hasId ⟨0x65a1f0c2b3d4e5f601234567⟩))).elim (.error .stopped) (fun sorted =>
                .ok [[(Listing.totalName,
                    Stage.countValue ((s.documents name).filter
                      (hasId ⟨0x65a1f0c2b3d4e5f601234567⟩)).length),
                  (Listing.dataName, .array (sorted.map .document))]]) ∧
          (((s.documents name).filter (hasId ⟨0x65a1f0c2b3d4e5f601234567⟩)).length ≤ 20 →
            ∃ sorted, (SortKeys.ofKeys defaultSort).sort ((s.documents name).filter
              (hasId ⟨0x65a1f0c2b3d4e5f601234567⟩)) = some sorted) ∧
          s.answer name lookup =
            .ok (((s.documents name).filter (hasId ⟨0x65a1f0c2b3d4e5f601234567⟩)).take 1) := by
  have h := (answer_identifier ⟨0x65a1f0c2b3d4e5f601234567⟩).2 letteredId (by decide)
  have hfilter : Request.filters [("owner", [String.ofList letteredId])] =
      [("owner", .objectId ⟨0x65a1f0c2b3d4e5f601234567⟩)] := by
    rfl
  exact ⟨hfilter, h.2 ((h.1 "owner" (by decide)).mp hfilter) { name := "users" } (by decide)⟩

/-- Digits alone are a numeral, so a filter with them does not find the document
    that has the identifier. -/
theorem identifier_numeric :
    ObjectId.read? numericId = some ⟨0x650000000000000000000000⟩ ∧
      Request.filters [("_id", [String.ofList numericId])] ≠
        [("_id", .objectId ⟨0x650000000000000000000000⟩)] ∧
      hasId ⟨0x650000000000000000000000⟩
        [("_id", .objectId ⟨0x650000000000000000000000⟩)] = true ∧
      Filter.accepts (Request.filters (Params.parse (identifierQuery numericId)))
        [("_id", .objectId ⟨0x650000000000000000000000⟩)] = false := by
  have hread : ObjectId.read? numericId = some ⟨0x650000000000000000000000⟩ := by
    decide
  have hfinite : ofDigits numericId * 10 ^ 0 < Binary64.overflow :=
    Nat.lt_of_lt_of_le (by decide) (Binary64.pow_le_overflow 80 (by decide))
  have hnumeral : IsNumeral numericId :=
    ⟨numericId, [], 0, (List.append_nil numericId).symm, by decide, by decide, .absent, hfinite⟩
  refine ⟨hread, ?_, by decide, by decide +kernel⟩
  rw [Request.filters_cons "_id" numericId [] (by decide) nofun]
  intro heq
  have hvalue := (Request.filterValue_eq_objectId_iff numericId _ hread).mp
    (Prod.mk.inj (List.cons.inj heq).1).2
  exact hvalue hnumeral

section Unique

variable (p : Profile) (s : Store) (name : String) (segment query : List Char) (id : ObjectId)
  (d : Document) (hsegment : Coercion.scalar? segment = some (.objectId id))
  (hunique : (s.documents name).filter (hasId id) = [d])

include hsegment hunique

end Unique

end Profile

end DocQuery
