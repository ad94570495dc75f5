import DocQuery.Proofs.Endpoint.Body
import DocQuery.Proofs.Endpoint.Lookup
import DocQuery.Proofs.Request.Query

/-!
# Embedded Documents in Responses

What the relations of a request put into the documents of a response. Hidden
fields are removed from a document after its relations have been expanded, and
from the document itself alone. So a document that stands in another one is as
it is stored, and if a relation leads back into the collection that is served,
its hidden fields are shown.

Relations are expanded one after the other, and each changes nothing but what
is under the first name of its own. What a relation has put into a document is
therefore still there in the end, unless a later one goes under the same name.

The document that a relation starts from is the one that the relations before it
have made, and not the stored one. So the result names it: there is a document
that has come out of the relations before, and the relation has put its partners
among the stored documents into that one. What the relations after it do is left
open, except that they must not write under the same first name.

A single document is taken from the answer as it is, and the documents of a page
are decoded first. The result says so for both kinds of calls at once, by a
document that is the one shown or is decoded to it.

## Main definitions

* `Relation.Embeds`: What a relation leaves at its name.
* `Profile.requested`: The relations that a call asks for.

## Theorems

* `Relation.get?_expandAll`: Relations change no other names.
* `Relation.embeds_of_mem_expandAll`: What each relation leaves in the end.
* `Profile.exists_of_mem_answered`: Where the documents of a response come from.
* `Profile.shows_embedded`: What is embedded in the documents of a response.
-/

namespace DocQuery

namespace Relation

/-- A document has at the name of a relation the partners that another one has
    among the stored documents: the list of all, one of them, or nothing if a
    single one is wanted and there is none. -/
inductive Embeds (r : Relation) (stored : List Document) (own d : Document) : Prop
  | all : r.single = false →
      d.at? (Path.ofString r.name) = some (.array ((r.join.partners stored own).map .document)) →
      Embeds r stored own d
  | absent : r.single = true → r.join.partners stored own = [] →
      d.at? (Path.ofString r.name) = none → Embeds r stored own d
  | one (partner : Document) : r.single = true → partner ∈ r.join.partners stored own →
      d.at? (Path.ofString r.name) = some (.document partner) → Embeds r stored own d

/-- What a relation leaves is a matter of what is at its name. -/
theorem embeds_of_at?_eq (r : Relation) (stored : List Document) (own d e : Document)
    (hat : e.at? (Path.ofString r.name) = d.at? (Path.ofString r.name))
    (h : r.Embeds stored own d) : r.Embeds stored own e := by
  cases h with
  | all hsingle hd => exact .all hsingle (hat.trans hd)
  | absent hsingle hnil hd => exact .absent hsingle hnil (hat.trans hd)
  | one partner hsingle hmem hd => exact .one partner hsingle hmem (hat.trans hd)

/-- A relation leaves the partners of a document in it. -/
theorem embeds_of_mem_expand (r : Relation) (stored : List Document) (d e : Document)
    (he : e ∈ r.expand stored d) : r.Embeds stored d e := by
  have hpath := Path.ofString_ne_nil r.name
  -- The list of the partners is put there first, even if it does not stay.
  rcases r.mem_expand stored d e he with ⟨hsingle, rfl⟩ | ⟨hsingle, hnil, rfl⟩ |
    ⟨hsingle, partner, hmem, rfl⟩
  · exact .all hsingle (Document.at?_setAt_self d _ _ hpath)
  · exact .absent hsingle hnil (Document.at?_removeAt_setAt d _ _ hpath)
  · exact .one partner hsingle hmem (Document.at?_setAt_self _ _ _ hpath)

/-- A relation changes nothing but what is under the first name of its own. -/
theorem get?_expand (r : Relation) (stored : List Document) (d e : Document)
    (he : e ∈ r.expand stored d) (name : String) (hname : Path.first r.name ≠ name) :
    e.get? name = d.get? name := by
  -- All that is written or removed is beneath the first name of the relation.
  rcases Path.ofString_eq_cons r.name with ⟨rest, hrest⟩
  have hjoined : (r.join.apply stored d).get? name = d.get? name := by
    rw [Join.apply, join, hrest]
    exact Document.get?_setAt_of_ne d _ name rest _ hname.symm
  rcases r.mem_expand stored d e he with ⟨-, rfl⟩ | ⟨-, -, rfl⟩ | ⟨-, partner, -, rfl⟩
  · exact hjoined
  · rw [← hjoined, join, hrest]
    exact Document.get?_removeAt_of_ne _ _ name rest hname.symm
  · rw [← hjoined, join, hrest]
    exact Document.get?_setAt_of_ne _ _ name rest _ hname.symm

theorem get?_expandAll (collection : String → List Document) (relations : List Relation)
    (d e : Document) (he : e ∈ expandAll collection relations d) (name : String)
    (hname : ∀ r ∈ relations, Path.first r.name ≠ name) : e.get? name = d.get? name :=
  holds_of_mem_expandAll collection (fun e => e.get? name = d.get? name) relations
    (fun r hr _ hf e he => (r.get?_expand _ _ e he name (hname r hr)).trans hf) d rfl e he

/-- What a relation has left in a document is there in the end, unless a later
    relation goes under the same name. -/
theorem embeds_of_mem_expandAll (collection : String → List Document)
    (before after : List Relation) (r : Relation)
    (hafter : ∀ other ∈ after, Path.first other.name ≠ Path.first r.name) (d e : Document)
    (he : e ∈ expandAll collection (before ++ r :: after) d) :
    ∃ own ∈ expandAll collection before d, r.Embeds (collection r.collection) own e := by
  -- Earlier relations only decide which document the relation starts from.
  rcases (mem_expandAll_append collection before (r :: after) d e).mp he with ⟨own, hown, he⟩
  rw [expandAll, List.mem_flatMap] at he
  rcases he with ⟨f, hf, he⟩
  -- The relations that come after it do not write under its first name.
  have hget := get?_expandAll collection after f e he _ hafter
  have hembeds := r.embeds_of_mem_expand _ own f hf
  exact ⟨own, hown, r.embeds_of_at?_eq _ own f e (Document.at?_ofString_congr e f _ hget) hembeds⟩

end Relation

namespace Profile

/-- The relations that a call asks for. -/
def requested (p : Profile) (call : Call) : List Relation :=
  let params := Params.parse (call.target.query.getD [])
  match route call.target.path with
  | .list => p.relationsNamed (ListRequest.ofParams params).populate
  | .single _ => p.relationsNamed (SingleRequest.ofParams params).relations
  | .guide | .none => []

/-- The documents of a page have been decoded from those that relations have
    been expanded in, whatever the search fields of the profile are. -/
theorem exists_of_mem_pageDocuments (p : Profile) (s : Store) (name : String) (r : ListRequest)
    (hsort : SortKey.Separate r.sort) (d : Document)
    (hd : d ∈ pageDocuments (s.answer name (p.listing r).compile)) :
    ∃ f ∈ s.documents name, ∃ e, Document.decode? e = some d ∧
      e ∈ Relation.expandAll s.documents (p.relationsNamed r.populate)
        (f.pick (p.listing r).request.fields) := by
  unfold pageDocuments at hd
  rcases Listing.matches_or_error s name (p.listing r) with hmatch | ⟨error, hmatch⟩
  swap
  · rw [Listing.answer_of_error rfl hmatch] at hd
    cases hd
  have hsort' := p.separate_visibleSort r.sort hsort
  rcases hshown : (p.listing r).shown (s.documents name) with _ | shown
  · rw [Listing.answer_of_shown_eq_none rfl hsort' hmatch hshown] at hd
    cases hd
  rw [Listing.answer_compile rfl hsort' hmatch hshown
    (Relation.runAll_expansion s.documents _ shown)] at hd
  split at hd
  · rename_i page hpage
    rcases Listing.exists_of_mem_page _ _ page hpage d hd with ⟨e, he, hdecode⟩
    rcases List.mem_flatMap.mp he with ⟨b, hb, he⟩
    rcases Listing.mem_of_mem_shown hshown hb with ⟨f, hf, rfl⟩
    exact ⟨f, hf, e, hdecode, he⟩
  · cases hd

theorem exists_of_mem_firstDocument (p : Profile) (s : Store) (name : String) (id : ObjectId)
    (r : SingleRequest) (d : Document)
    (hd : d ∈ firstDocument (s.answer name (p.lookupPipeline id r))) :
    ∃ f ∈ s.documents name, d ∈ Relation.expandAll s.documents (p.relationsNamed r.relations)
      (f.pick (singleFields (p.visibleFields r.fields) (p.relationsNamed r.relations))) := by
  rw [answer_lookupPipeline] at hd
  rcases List.mem_flatMap.mp (List.mem_of_mem_take hd) with ⟨b, hb, hd⟩
  rcases List.mem_map.mp hb with ⟨f, hf, rfl⟩
  exact ⟨f, List.mem_of_mem_filter (List.mem_of_mem_take hf), hd⟩

/-- The documents that a call is answered with are documents of the collection
    with some fields picked and with the relations expanded that the call asks
    for. Those of a page have been decoded after that. -/
theorem exists_of_mem_answered (p : Profile) (s : Store) (name : String) (call : Call)
    (d : Document) (hd : d ∈ p.answered call (s.answer name)) :
    ∃ f ∈ s.documents name, ∃ (fields : List String) (e : Document),
      e ∈ Relation.expandAll s.documents (p.requested call) (f.pick fields) ∧
        (d = e ∨ Document.decode? e = some d) := by
  unfold answered at hd
  split at hd
  · cases hd
  unfold requested
  -- Only a list and a single document are answered with documents.
  cases hroute : route call.target.path with
  | list =>
      simp only [hroute] at hd
      rcases p.exists_of_mem_pageDocuments s name _ (Request.separate_sort _) d hd with
        ⟨f, hf, e, hdecode, he⟩
      exact ⟨f, hf, _, e, he, Or.inr hdecode⟩
  | guide =>
      simp only [hroute] at hd
      cases hd
  | single segment =>
      simp only [hroute] at hd
      split at hd
      · rcases p.exists_of_mem_firstDocument s name _ _ d hd with ⟨f, hf, hd⟩
        exact ⟨f, hf, _, d, hd, Or.inl rfl⟩
      · cases hd
  | none =>
      simp only [hroute] at hd
      cases hd

/-- What is embedded in the documents of a response. None of these documents
    carries a hidden field itself. Under the name of a relation, though, nothing
    is removed unless the name is hidden, and there are stored documents as they
    are, of the collection that is served too. -/
theorem shows_embedded (p : Profile) (s : Store) (name : String) (call : Call) :
    p.Shows (p.handle call (s.answer name)) ((p.answered call (s.answer name)).map p.redact) ∧
      ∀ d ∈ p.answered call (s.answer name),
        (∀ field ∈ p.hiddenFields, (p.redact d).get? field = none) ∧
        (∀ path : String, Path.first path ∉ p.hiddenFields →
          (p.redact d).at? (Path.ofString path) = d.at? (Path.ofString path)) ∧
        ∃ f ∈ s.documents name, ∃ (fields : List String) (e : Document),
          (d = e ∨ Document.decode? e = some d) ∧
          ∀ before relation after, p.requested call = before ++ relation :: after →
            (∀ other ∈ after, Path.first other.name ≠ Path.first relation.name) →
            ∃ own ∈ Relation.expandAll s.documents before (f.pick fields),
              relation.Embeds (s.documents relation.collection) own e := by
  refine ⟨p.shows_handle call _, ?_⟩
  intro d hd
  rcases p.exists_of_mem_answered s name call d hd with ⟨f, hf, fields, e, he, hde⟩
  refine ⟨?_, ?_, f, hf, fields, e, hde, ?_⟩
  · intro field hfield
    rw [get?_redact, if_pos hfield]
  · intro path hpath
    rw [at?_redact, if_neg hpath]
  · intro before relation after hrequested hafter
    rw [hrequested] at he
    exact Relation.embeds_of_mem_expandAll s.documents before after relation hafter _ e he

/-- A store with people, one of whom is the boss of the other. -/
def bossStore : Store where
  collections :=
    [("people",
      [[("_id", .int32 1), ("name", .string "Ann"), ("key", .string "a")],
       [("_id", .int32 2), ("name", .string "Bob"), ("boss", .int32 1), ("key", .string "b")]])]
  supply := .counting ⟨0⟩

/-- A profile of people that hides their keys and shows their bosses. -/
def bossProfile : Profile where
  name := "people"
  relations := [{ name := "boss", collection := "people", localField := "boss", single := true }]
  hiddenFields := ["key"]

/-- A document that stands in another one of the same collection is shown with
    its hidden fields. -/
theorem shows_boss :
    bossProfile.Shows
      (bossProfile.handle (Call.list "populate=boss".toList) (bossStore.answer "people"))
      [[("_id", .int32 1), ("name", .string "Ann")],
       [("_id", .int32 2), ("name", .string "Bob"),
        ("boss", .document
          [("_id", .int32 1), ("name", .string "Ann"), ("key", .string "a")])]] := by
  have hparams : Params.parse "populate=boss".toList = [("populate", ["boss"])] :=
    Params.parse_literal "populate".toList "boss".toList (by decide) (by decide)
  have hrelations : bossProfile.relationsNamed
      (ListRequest.ofParams [("populate", ["boss"])]).populate = bossProfile.relations := by
    rfl
  have hshown : (bossProfile.listing (ListRequest.ofParams [("populate", ["boss"])])).shown
      (bossStore.documents "people") = some (bossStore.documents "people") := by
    rfl
  have hpage : bossProfile.paged bossStore "people"
      (ListRequest.ofParams (Params.parse "populate=boss".toList)) = some
      [[("_id", .int32 1), ("name", .string "Ann"), ("key", .string "a")],
       [("_id", .int32 2), ("name", .string "Bob"),
        ("boss", .document [("_id", .int32 1), ("name", .string "Ann"), ("key", .string "a")]),
        ("key", .string "b")]] := by
    rw [hparams, paged_of_shown_eq_some hshown, hrelations]
    rfl
  have hmatch : (bossProfile.listingFor (Params.parse "populate=boss".toList)).Matches bossStore
      "people" := by
    rw [hparams]
    exact matches_of_get?_eq_none _ _ _ rfl
  have hanswered := answered_list bossStore "people" bossProfile "populate=boss".toList
    (Store.forall_documents bossStore (by decide)) (by decide) hmatch
    (by rw [hparams]; decide) hpage
  have hshows := bossProfile.shows_handle (Call.list "populate=boss".toList)
    (bossStore.answer "people")
  rw [hanswered] at hshows
  exact hshows

end Profile

end DocQuery
