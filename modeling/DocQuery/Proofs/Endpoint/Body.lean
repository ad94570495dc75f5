import DocQuery.Proofs.Endpoint.Answer
import DocQuery.Proofs.Endpoint.Redaction

/-!
# Documents in Responses

Which documents the body of a response shows: those of a page, a single one, or
none. Each of them is one that the store has answered with, from which the
hidden fields have been removed.

A hidden field is removed as a name. A name without a point is a path of its
own, so nothing is left at it. A hidden field with a point in it is a path into
a document within the document, and is left where it is, although a request
cannot ask for it.

A response is a body of text and numbers, and documents can only be recognised
in it by what they are printed as. Therefore `Profile.Shows` relates a response
to the documents it is made of, in each of the forms that a response can have,
and every statement about the documents of a response is one about this list.
That the relation holds of every call leaves no way for a document to get into a
response beside it.

## Main definitions

* `Profile.Shows`: The documents that a response shows.
* `Profile.answered`: The documents that a call is answered with.

## Theorems

* `Profile.shows_handle`: The response shows what the call is answered with.
* `Profile.shows_redacted`: What is left in the documents of a response.
-/

namespace DocQuery

namespace Profile

/-- A response shows documents: all of a page, a single one, or none if it
    describes the parameters, fails or is not there. -/
inductive Shows (p : Profile) : Response → List Document → Prop
  | page (message : String) (docs : List Document) (numbers : PageNumbers) :
      Shows p (.ok message (.array (docs.map fun d => (Value.document d).plain)) (some numbers))
        docs
  | single (message : String) (d : Document) :
      Shows p (.ok message (Value.document d).plain none) [d]
  | guide : Shows p p.guideResponse []
  | failure (e : EndpointError) : Shows p (.failure e) []
  | missing : Shows p .missing []

/-- The documents of the page in an answer. -/
def pageDocuments (answer : Answer) : List Document :=
  match Listing.page answer with
  | .ok page => page.data
  | .error _ => []

/-- The first document of an answer. -/
def firstDocument : Answer → List Document
  | .ok docs => docs.take 1
  | .error _ => []

/-- The documents that a call is answered with, before hidden fields are
    removed from them. -/
def answered (p : Profile) (call : Call) (store : List Document → Answer) : List Document :=
  if call.method ≠ "GET".toList then []
  else
    let params := Params.parse (call.target.query.getD [])
    match route call.target.path with
    | .list => pageDocuments (store (p.listingFor params).compile)
    | .single segment => match ObjectId.read? segment with
      | some id => firstDocument (store (p.lookupPipeline id (SingleRequest.ofParams params)))
      | none => []
    | .guide | .none => []

theorem answered_call_list (p : Profile) (query : List Char) (store : List Document → Answer) :
    p.answered (Call.list query) store =
      pageDocuments (store (p.listingFor (Params.parse query)).compile) := by
  have hroute : route ['/'] = .list := by decide
  unfold answered Call.list
  rw [if_neg (not_not_intro rfl)]
  simp only [hroute, Option.getD_some]

/-- A call for a list over a store of storable documents is answered with the
    page that it asks for. -/
theorem answered_list (s : Store) (name : String) (p : Profile) (query : List Char)
    (hstore : ∀ name, ∀ d ∈ s.documents name, d.Storable)
    (hrelations : ∀ relation ∈ p.relations, (Path.ofString relation.name).isMarked = false ∧
      (Path.ofString relation.localField).isMarked = false)
    (hmatch : (p.listingFor (Params.parse query)).Matches s name)
    (hfields : ∀ field ∈ Request.fields (Params.parse query),
      (Path.ofString field).isMarked = false) {docs : List Document}
    (hdocs : p.paged s name (ListRequest.ofParams (Params.parse query)) = some docs) :
    p.answered (Call.list query) (s.answer name) = docs := by
  have hexecute := execute_listing hmatch (Request.separate_sort (Params.parse query))
  rw [hdocs, Option.elim_some, Document.mapM_decode?_of_storable _
    (storable_paged s name p _ hstore hrelations hfields _ hdocs)] at hexecute
  unfold Listing.execute at hexecute
  rw [answered_call_list, pageDocuments, hexecute]

theorem shows_listResponse (p : Profile) (r : ListRequest) (answer : Answer) :
    p.Shows (p.listResponse r answer) ((pageDocuments answer).map p.redact) := by
  unfold listResponse pageDocuments
  -- The answer is a failure of the store, no page, none at all, or a page.
  rcases Listing.page answer with (message | _ | _) | page
  · exact .failure (.store message)
  · exact .failure .decode
  · exact .missing
  · have hpresent : page.data.map p.present =
        (page.data.map p.redact).map fun d => (Value.document d).plain := by
      rw [List.map_map]
      rfl
    simp only [hpresent]
    exact .page p.retrieved _ _

theorem shows_singleResponse (p : Profile) (answer : Answer) :
    p.Shows (p.singleResponse answer) ((firstDocument answer).map p.redact) := by
  rcases answer with (message | _) | docs
  · exact .failure (.store message)
  · exact .missing
  · rcases docs with _ | ⟨d, docs⟩
    · exact .failure (.notFound p.name)
    · exact .single p.retrieved (p.redact d)

/-- A response shows the documents that the call is answered with, without the
    hidden fields. -/
theorem shows_handle (p : Profile) (call : Call) (store : List Document → Answer) :
    p.Shows (p.handle call store) ((p.answered call store).map p.redact) := by
  unfold handle plan answered
  by_cases hmethod : call.method ≠ "GET".toList
  · rw [if_pos hmethod, if_pos hmethod]
    exact .failure .noRoute
  rw [if_neg hmethod, if_neg hmethod]
  cases route call.target.path with
  | list => exact p.shows_listResponse _ _
  | guide => exact .guide
  | single segment =>
      rcases hread : ObjectId.read? segment with _ | id
      · simp only [hread]
        exact .failure (.invalidId (String.ofList segment))
      · simp only [hread]
        exact p.shows_singleResponse _
  | none => exact .failure .noRoute

/-- Of every document that a response shows, what is at a path has been removed
    if the first name of the path is hidden, and else it is left as it was. So
    nothing is left at a hidden field without a point. -/
theorem shows_redacted (p : Profile) (call : Call) (store : List Document → Answer) :
    p.Shows (p.handle call store) ((p.answered call store).map p.redact) ∧
      ∀ d ∈ p.answered call store,
        (∀ field ∈ p.hiddenFields, '.' ∉ field.toList →
          (p.redact d).at? (Path.ofString field) = none) ∧
        ∀ path : String, (p.redact d).at? (Path.ofString path) =
          if Path.first path ∈ p.hiddenFields then none else d.at? (Path.ofString path) := by
  -- Nothing is asked of the documents, so it does not matter which of them are shown.
  refine ⟨p.shows_handle call store, ?_⟩
  intro d _
  refine ⟨?_, p.at?_redact d⟩
  intro field hfield hdot
  rw [at?_redact, Path.first_of_notMem field hdot, if_pos hfield]

/-- A user with a profile that has a secret in it. -/
def nestedUser : Document :=
  [("_id", .int32 1), ("name", .string "Ann"),
    ("profile", .document [("ssn", .string "123"), ("city", .string "Rome")])]

/-- A store with that user. -/
def nestedStore : Store where
  collections := [("users", [nestedUser])]
  supply := .counting ⟨0⟩

/-- A profile that hides the secret within the profile of a user. -/
def nestedProfile : Profile where
  name := "users"
  hiddenFields := ["profile.ssn"]

/-- A hidden field with a point in it is shown. -/
theorem shows_nested :
    nestedProfile.isHidden "profile.ssn" = true ∧
      nestedProfile.Shows (nestedProfile.handle (Call.list []) (nestedStore.answer "users"))
        [nestedUser] ∧
      nestedUser.at? (Path.ofString "profile.ssn") = some (.string "123") := by
  have hpage : nestedProfile.paged nestedStore "users" (ListRequest.ofParams (Params.parse [])) =
      some [nestedUser] := by
    rfl
  have hmatch : (nestedProfile.listingFor (Params.parse [])).Matches nestedStore "users" :=
    matches_of_get?_eq_none _ _ _ rfl
  have hanswered := answered_list nestedStore "users" nestedProfile []
    (Store.forall_documents nestedStore (by decide)) (by decide) hmatch (by decide) hpage
  -- Removing the name of the hidden field removes nothing, as it is no name.
  have hredact : [nestedUser].map nestedProfile.redact = [nestedUser] := by
    rfl
  have hpath : Path.ofString "profile.ssn" = ["profile", "ssn"] := by
    decide
  have hshows := nestedProfile.shows_handle (Call.list []) (nestedStore.answer "users")
  rw [hanswered, hredact] at hshows
  refine ⟨by decide, hshows, ?_⟩
  rw [hpath]
  rfl

end Profile

end DocQuery
