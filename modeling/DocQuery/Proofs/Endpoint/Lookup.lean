import DocQuery.Endpoint.Handler
import DocQuery.Proofs.Endpoint.Expansion
import DocQuery.Proofs.Filter.Entries
import DocQuery.Proofs.Pipeline.Fields
import DocQuery.Proofs.Value.Identifier
import DocQuery.Store.Basic

/-!
# Answers to Requests for Single Documents

What a store makes of the pipeline for a single document: the first document
with the identifier, with its fields picked and its relations expanded. Nothing
in the pipeline can fail, whatever the request is.

An identifier is 24 hexadecimal digits, so a path that is a slash and an
identifier leads to the single document and nowhere else.

The filter for the identifier is written by the program, so it is readable and
its value is an identifier, not a number. No sort is involved and the limit is
one, so neither the order of documents nor their number can stand in the way.
What may still be surprising is that the one document can come to several: its
relations are expanded after the limit, and the response has the first of what
comes out.

## Main definitions

* `Call.single`: The call for a single document.
* `Profile.hasId`: Has a document an identifier?
* `Profile.singleFields`: The fields that are kept of a single document.

## Theorems

* `Profile.answer_lookupPipeline`: The answer of a store.
* `Profile.plan_call_single`, `handle_single`: The response to a call.
-/

namespace DocQuery

/-- The call for a single document, with a query string. -/
def Call.single (segment query : List Char) : Call where
  method := "GET".toList
  target := { path := '/' :: segment, query := some query }

namespace Profile

theorem trimSlashes_cons (segment : List Char) (hne : segment ≠ []) (h : '/' ∉ segment) :
    trimSlashes ('/' :: segment) = '/' :: segment := by
  unfold trimSlashes
  rcases hrev : segment.reverse with _ | ⟨c, rest⟩
  · exact absurd (List.reverse_eq_nil_iff.mp hrev) hne
  · -- The last character is one of the segment, which has no slash.
    have hc : c ≠ '/' := by
      rintro rfl
      exact h (List.mem_reverse.mp (hrev ▸ List.mem_cons_self))
    rw [List.reverse_cons, hrev, List.cons_append, List.dropWhile_cons_of_neg (by simpa using hc),
      ← List.cons_append, ← hrev, ← List.reverse_cons, List.reverse_reverse]

/-- A path that is a slash and an identifier leads to a single document. -/
theorem route_of_read?_eq_some (segment : List Char) (id : ObjectId)
    (h : ObjectId.read? segment = some id) : route ('/' :: segment) = .single segment := by
  rcases ObjectId.length_and_isDigit_of_read?_eq_some segment id h with ⟨hlength, hdigits⟩
  have hne : segment ≠ [] := by
    rintro rfl
    cases hlength
  have hguide : segment ≠ "_params".toList := by
    rintro rfl
    exact absurd hlength (by decide)
  have hslash : '/' ∉ segment := by
    intro hmem
    exact absurd (List.all_eq_true.mp hdigits '/' hmem) (by decide)
  unfold route
  rw [trimSlashes_cons segment hne hslash]
  simp only [if_neg hguide, List.contains_iff_mem, hslash, if_false]

/-- The fields that are kept of a single document, or none for all. -/
def singleFields (fields : List String) (relations : List Relation) : List String :=
  if fields.isEmpty then [] else including fields ("_id" :: relations.map Relation.localField)

/-- The projection for a single document picks its fields, and is left out if
    all are kept. -/
theorem runAll_singleProjection (collection : String → List Document) (fields : List String)
    (relations : List Relation) (docs : List Document) :
    Stage.runAll collection ((singleProjection fields relations).map Stage.ofDocument) docs =
      .ok (docs.map (Document.pick (singleFields fields relations))) := by
  unfold singleProjection singleFields
  by_cases hempty : fields.isEmpty = true
  · have hpick : ∀ d : Document, d.pick [] = d := fun _ => rfl
    rw [if_pos hempty, if_pos hempty, List.map_congr_left fun d _ => hpick d, List.map_id']
    rfl
  · -- The identifier is always among the fields, so the projection is never empty.
    have hkept : "_id" ∈ including fields ("_id" :: relations.map Relation.localField) := by
      unfold including
      rw [List.mem_eraseDups]
      exact List.mem_append_right _ List.mem_cons_self
    have hnonempty : (fieldsDocument
        (including fields ("_id" :: relations.map Relation.localField))).isEmpty = false := by
      unfold fieldsDocument
      rw [List.isEmpty_map, List.isEmpty_eq_false_iff]
      exact List.ne_nil_of_mem hkept
    have hstage : Listing.stage "$project"
        (fieldsDocument (including fields ("_id" :: relations.map Relation.localField))) =
          Listing.projectStage
            (fieldsDocument (including fields ("_id" :: relations.map Relation.localField))) := by
      unfold Listing.projectStage
      rw [hnonempty]
      rfl
    rw [if_neg hempty, if_neg hempty, hstage]
    simp only [List.map_cons, List.map_nil, Stage.runAll, Stage.run_projectStage, bind,
      Except.bind]

/-- Has a document this identifier? -/
def hasId (id : ObjectId) (d : Document) : Bool :=
  Filter.equal (d.at? (Path.ofString "_id")) (.objectId id)

/-- The answer of a store to the pipeline for a single document. -/
theorem answer_lookupPipeline (s : Store) (name : String) (p : Profile) (id : ObjectId)
    (r : SingleRequest) :
    s.answer name (p.lookupPipeline id r) =
      .ok (((((s.documents name).filter (hasId id)).take 1).map (Document.pick
        (singleFields (p.visibleFields r.fields) (p.relationsNamed r.relations)))).flatMap
          (Relation.expandAll s.documents (p.relationsNamed r.relations))) := by
  have hmatch : Stage.ofDocument (Listing.stage "$match" [("_id", .objectId id)]) =
      .filter (.equals (Path.ofString "_id") (.objectId id)) := by
    rfl
  have hlimit : Stage.ofDocument [("$limit", .int64 1)] = .limit 1 := by
    rfl
  -- The first two stages do not depend on the request.
  have hfirst : Stage.runAll s.documents
      (([Listing.stage "$match" [("_id", .objectId id)], [("$limit", .int64 1)]] :
        List Document).map Stage.ofDocument) (s.documents name) =
          .ok (((s.documents name).filter (hasId id)).take 1) := by
    simp only [List.map_cons, List.map_nil, hmatch, hlimit, Stage.runAll, Stage.run, bind,
      Except.bind]
    rfl
  unfold Store.answer Store.aggregate lookupPipeline
  simp only [List.map_append, Stage.runAll_append, hfirst, Except.bind, runAll_singleProjection,
    Relation.runAll_expansion]
  rfl

/-- The documents with an identifier are those that match the filter for it. -/
theorem accepts_id (id : ObjectId) (d : Document) :
    Filter.accepts [("_id", .objectId id)] d = hasId id d := rfl

/-- The plan for a call for a single document. -/
theorem plan_call_single (p : Profile) (segment query : List Char) (id : ObjectId)
    (h : ObjectId.read? segment = some id) :
    p.plan (Call.single segment query) =
      .ask (p.lookupPipeline id (SingleRequest.ofParams (Params.parse query)))
        p.singleResponse := by
  unfold plan Call.single
  rw [if_neg (not_not_intro rfl)]
  simp only [route_of_read?_eq_some segment id h, h, Option.getD_some]

end Profile

end DocQuery
