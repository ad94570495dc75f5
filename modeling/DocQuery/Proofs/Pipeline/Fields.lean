import DocQuery.Listing.Stages
import DocQuery.Pipeline.Stage
import DocQuery.Proofs.Outcome
import DocQuery.Proofs.Value.Names

/-!
# Picking Fields

The stage that keeps some fields of a document never fails. It starts from the
identifier and puts the value of each field where it was. Without any field, or
with the identifier alone, it keeps the document as it is.

Both the fields that a client asks for and the written projection of a stage
come to the same function `Document.pick`, so what a list shows and what a stage
delivers are proved from the same lemmas. Its lemmas are of one form. A property
that holds of the identifier alone and is kept by one more field holds of the
document that is picked (`holds_pick`), and each use says only what one field
does.

A field that is missing adds nothing, not even null, and an empty list of fields
is written as a stage that adds no fields rather than as a projection.

## Main definitions

* `Document.pick`: A document with some of its fields.
* `Projection.OnlyIncludes`: Does a written projection only include fields?

## Theorems

* `Projection.ofDocument_of_onlyIncludes`: What a projection that only includes
  fields stands for.
* `Stage.run_projectStage`: The stage picks the fields of every document.
* `Document.holds_pick`: What is kept by each field that is added.
* `Document.sound_pick`, `settled_pick`: Picking keeps documents sound.
* `Document.mem_names_pick`: Where names in the documents come from.
-/

namespace DocQuery

namespace Document

/-- A document with the value of one more field of another one. -/
def addField (d out : Document) (field : String) : Document :=
  Projection.put out (Path.ofString field) (d.at? (Path.ofString field))

/-- A document with some of its fields and its identifier. No fields, or the
    identifier alone, stand for all of them. -/
def pick (fields : List String) (d : Document) : Document :=
  match fields.filter fun field => field ≠ "_id" with
  | [] => d
  | fields => fields.foldl (addField d) (Projection.identifierOf d)

end Document

namespace Projection

/-- Names that are written as ones are all included. -/
theorem choices_fieldsDocument (fields : List String) :
    choices (fieldsDocument fields) = fields.map fun field => (field, .included) := by
  unfold choices fieldsDocument
  rw [List.map_map]
  apply List.map_congr_left
  intro field _
  have hincluded : FieldChoice.ofValue (.int32 1) = .included := by rfl
  exact congrArg (Prod.mk field) hincluded

/-- Does a written projection only include fields? It may still drop the
    identifier. -/
def OnlyIncludes (cs : Choices) : Prop :=
  ∀ c ∈ cs, c.2 = .included ∨ c.1 = "_id" ∧ c.2 = .excluded

/-- The written form of some names includes them and drops nothing. -/
theorem onlyIncludes_fieldsDocument (fields : List String) :
    OnlyIncludes (choices (fieldsDocument fields)) := by
  rw [choices_fieldsDocument]
  intro c hc
  rcases List.mem_map.mp hc with ⟨field, -, rfl⟩
  exact Or.inl rfl

theorem included_of_onlyIncludes (cs : Choices) (h : OnlyIncludes cs) :
    included cs = ((cs.map Prod.fst).filter fun field => field ≠ "_id").map
      fun field => (Path.ofString field, none) := by
  induction cs with
  | nil => rfl
  | cons c cs ih =>
      rcases c with ⟨field, choice⟩
      have hrest := ih fun other hother => h other (List.mem_cons_of_mem _ hother)
      have hchoice := h _ (List.mem_cons_self ..)
      unfold included at hrest ⊢
      by_cases hfield : field = "_id"
      · -- The identifier adds nothing, whether it is included or dropped.
        subst hfield
        rcases hchoice with rfl | ⟨-, rfl⟩
        · exact hrest
        · exact hrest
      · obtain rfl : choice = .included := hchoice.resolve_right fun hid => hfield hid.1
        rw [List.map_cons, List.filterMap_cons, hrest,
          List.filter_cons_of_pos (by simpa using hfield), List.map_cons]
        simp

theorem excluded_of_onlyIncludes (cs : Choices) (h : OnlyIncludes cs) : excluded cs = [] := by
  unfold excluded
  rw [List.filterMap_eq_nil_iff]
  rintro ⟨field, choice⟩ hc
  by_cases hfield : field = "_id"
  · simp [hfield]
  · obtain rfl : choice = .included := (h _ hc).resolve_right fun hid => hfield hid.1
    simp [hfield]

/-- A projection that only includes fields keeps them. Without any, or with the
    identifier alone, there is nothing to choose. -/
theorem ofDocument_of_onlyIncludes (spec : Document) (h : OnlyIncludes (choices spec)) :
    ofDocument spec = .ok (match spec.keys.filter fun field => field ≠ "_id" with
      | [] => .drop (if keepsIdentifier (choices spec) then [] else [["_id"]])
      | fields => .keep (keepsIdentifier (choices spec))
          (fields.map fun field => (Path.ofString field, none))) := by
  have hkeys : (choices spec).map Prod.fst = spec.keys := by
    rw [choices, List.map_map]
    rfl
  unfold ofDocument
  simp only [included_of_onlyIncludes _ h, excluded_of_onlyIncludes _ h, hkeys]
  rcases spec.keys.filter fun field => field ≠ "_id" with _ | ⟨field, fields⟩
  · rfl
  · rfl

theorem keepsIdentifier_fieldsDocument (fields : List String) :
    keepsIdentifier (choices (fieldsDocument fields)) = true := by
  rw [choices_fieldsDocument]
  unfold keepsIdentifier
  rw [List.all_eq_true]
  intro p hp
  rcases List.mem_map.mp hp with ⟨field, -, rfl⟩
  simp

/-- To keep some fields is to add them one by one to the identifier, or to an
    empty document. -/
theorem apply_keep (identifier : Bool) (fields : List String) (d : Document) :
    (keep identifier (fields.map fun field => (Path.ofString field, none))).apply d =
      .ok (fields.foldl (Document.addField d) (if identifier then identifierOf d else [])) := by
  have hfold : ∀ out : Document, (fields.map fun field => (Path.ofString field, none)).foldlM
      (fun out field => (valueFor d field.1 field.2).map (put out field.1)) out =
        (.ok (fields.foldl (Document.addField d) out) : Except StageError Document) := by
    induction fields with
    | nil => exact fun _ => rfl
    | cons field fields ih =>
        intro out
        rw [List.map_cons, List.foldlM_cons, List.foldl_cons]
        exact ih _
  exact hfold _

end Projection

/-- The projection that keeps some fields picks them. -/
theorem Projection.ofDocument_fieldsDocument (fields : List String) :
    ∃ p, Projection.ofDocument (fieldsDocument fields) = .ok p ∧
      ∀ d, p.apply d = .ok (d.pick fields) := by
  have hkeys : (fieldsDocument fields).keys = fields := by
    rw [fieldsDocument, Document.keys, List.map_map]
    exact List.map_id' fields
  rw [Projection.ofDocument_of_onlyIncludes _ (Projection.onlyIncludes_fieldsDocument fields),
    hkeys, Projection.keepsIdentifier_fieldsDocument]
  unfold Document.pick
  -- With no name but the identifier, the projection drops nothing.
  rcases fields.filter fun field => field ≠ "_id" with _ | ⟨field, fields⟩
  · exact ⟨.drop [], rfl, fun d => rfl⟩
  · exact ⟨.keep true _, rfl, fun d => apply_keep true (field :: fields) d⟩

/-- A stage with a projection that never fails projects every document. -/
theorem Stage.run_project (collection : String → List Document) (spec : Document)
    (p : Projection) (f : Document → Document) (hp : Projection.ofDocument spec = .ok p)
    (happly : ∀ d, p.apply d = .ok (f d)) (docs : List Document) :
    Stage.run collection (Stage.ofDocument (Listing.stage "$project" spec)) docs =
      .ok (docs.map f) := by
  have hstage : Stage.ofDocument (Listing.stage "$project" spec) = .project p := by
    simp [Listing.stage, Stage.ofDocument, Stage.ofEntry, Stage.ofFields, Stage.ofExcept, hp]
  rw [hstage, Stage.run, mapM_ok _ _ docs fun d _ => happly d]
  rfl

/-- The stage that keeps some fields picks them from every document. -/
theorem Stage.run_projectStage (collection : String → List Document) (fields : List String)
    (docs : List Document) :
    Stage.run collection (Stage.ofDocument (Listing.projectStage (fieldsDocument fields))) docs =
      .ok (docs.map (Document.pick fields)) := by
  -- Without names the stage adds no fields instead, which changes nothing either.
  by_cases hfields : fields = []
  · subst hfields
    have hadd : docs.mapM (DocQuery.addFields []) = .ok (docs.map (Document.pick [])) :=
      mapM_ok _ _ docs fun d _ => rfl
    have hstage : Stage.ofDocument (Listing.projectStage (fieldsDocument [])) =
        .addFields [] := by
      simp [Listing.projectStage, fieldsDocument, Listing.stage, Stage.ofDocument, Stage.ofEntry,
        Stage.ofFields, Stage.ofAddedFields]
    rw [hstage, Stage.run, hadd]
    rfl
  · rcases Projection.ofDocument_fieldsDocument fields with ⟨p, hp, happly⟩
    have hempty : (fieldsDocument fields).isEmpty = false := by
      unfold fieldsDocument
      rw [List.isEmpty_map, List.isEmpty_eq_false_iff]
      exact hfields
    have hstage : Listing.projectStage (fieldsDocument fields) =
        Listing.stage "$project" (fieldsDocument fields) := by
      simp [Listing.projectStage, hempty]
    rw [hstage]
    exact Stage.run_project collection _ p _ hp happly docs

namespace Document

theorem sound_identifierOf (marked : Value → Bool) (d : Document) (hd : d.Sound marked) :
    (Projection.identifierOf d).Sound marked := by
  unfold Projection.identifierOf
  rcases h : d.get? "_id" with _ | v
  · exact sound_nil marked
  · exact sound_insert marked [] "_id" v (sound_nil marked)
      (soundUnder_of_get? marked d "_id" v hd h)

/-- What is kept by each field that is added is true in the end. -/
theorem holds_foldl_addField (P : Document → Prop) (d : Document) (fields : List String)
    (hstep : ∀ field ∈ fields, ∀ out, P out → P (addField d out field)) (out : Document)
    (hout : P out) : P (fields.foldl (addField d) out) := by
  induction fields generalizing out with
  | nil => exact hout
  | cons field fields ih =>
      rw [List.forall_mem_cons] at hstep
      exact ih hstep.2 _ (hstep.1 out hout)

/-- The same for a document with some of its fields. It may also be as it was. -/
theorem holds_pick (P : Document → Prop) (fields : List String) (d : Document) (hd : P d)
    (hidentifier : P (Projection.identifierOf d))
    (hstep : ∀ field ∈ fields, ∀ out, P out → P (addField d out field)) : P (d.pick fields) := by
  unfold pick
  split
  · exact hd
  · apply holds_foldl_addField P d _ _ _ hidentifier
    exact fun field hfield => hstep field (List.mem_of_mem_filter hfield)

/-- Picking fields without dollar signs keeps a document sound. -/
theorem sound_pick (marked : Value → Bool) (fields : List String) (d : Document)
    (hd : d.Sound marked) (hfields : ∀ field ∈ fields, (Path.ofString field).isMarked = false) :
    (d.pick fields).Sound marked := by
  apply holds_pick _ fields d hd (sound_identifierOf marked d hd)
  intro field hfield out hout
  unfold addField
  rcases hat : d.at? (Path.ofString field) with _ | v
  · exact hout
  · have hpath := hfields field hfield
    have hv := Value.sound_of_at? marked (.document d) v _ hpath
      ((Value.sound_document_iff marked d).mpr hd) hat
    exact sound_setAt marked out _ v hout hpath hv

/-- Picking any fields of a storable document leaves nothing but hollow values
    at marked paths. -/
theorem settled_pick (fields : List String) (d : Document) (hd : d.Storable) :
    (d.pick fields).Settled := by
  have hsettled := settled_of_storable d hd
  apply holds_pick _ fields d hsettled (sound_identifierOf _ d hsettled)
  intro field _ out hout
  unfold addField
  rcases hat : d.at? (Path.ofString field) with _ | v
  · exact hout
  -- What is found at a marked path is hollow; otherwise it is settled as a part.
  rcases hpath : (Path.ofString field).isMarked with _ | _
  · have hv := Value.sound_of_at? Value.hollow (.document d) v _ hpath
      ((Value.sound_document_iff _ d).mpr hsettled) hat
    exact sound_setAt _ out _ v hout hpath hv
  · have hv := Value.hollow_of_at? (.document d) v _ hpath
      ((Value.sound_document_iff _ d).mpr hd) hat
    exact settled_setAt out _ v hout hv

end Document

end DocQuery
