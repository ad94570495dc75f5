import DocQuery.Proofs.Listing.Execution
import DocQuery.Proofs.Request.Filters

/-!
# The Meaning of a Listing

What a request for a list means, without a pipeline: of the documents in a
collection those that satisfy the filters and the search are counted and put in
order; of these a part is cut out, and of each document in it some fields are
picked. To compile the request and to run the pipeline gives just that.

A request has this meaning if the documents that it finds have an order, as they
always do where the keys are transitive on them or where there are few of them.
No stage of the pipeline fails then, with one exception that comes from outside:
the engine for patterns refuses the search term if it is too large. So the term
has to be small enough to search for. A term of that size is refused with an
error and not with a wrong page (`Listing.execute_of_not_searchable`).

This is the theorem to read first about lists. What stands on its left is a
pipeline of documents that is compiled, sent to the store, read again and run
stage by stage. What stands on its right is a filter, a sort and a part of a
list. The stages in between are taken one at a time in `Listing.Execution`; here
the conditions of a request are shown to be such that none of them fails.

There are two such conditions, and neither can be dropped. Keys that are not
transitive on more than twenty documents may make the sort give up, and then the
program stops. And the term of a search may be larger than the engine takes.
Fields with a dollar sign in their path are left out of the statement because
they make documents that do not decode.

## Main definitions

* `Listing.ofParams`: The listing that parameters ask for.
* `Listing.meaning`: The page that a listing means, if there is an order.
* `Listing.largeTerm`: A search term that is too large.

## Theorems

* `Filter.readable_overlay`: An overridden filter can be read.
* `Listing.shown_eq_data`: The documents of a page are those that are meant.
* `Listing.execute_ofParams`: Running a listing gives the page that it means.
* `Listing.execute_of_not_searchable`: Running it with a term that is too large.
* `Listing.execute_large`: An example of that.
-/

namespace DocQuery

theorem Filter.readable_overlay (filter other : Document) (hfilter : Filter.Readable filter)
    (hother : Filter.Readable other) : Filter.Readable (filter.overlay other) := by
  rw [Filter.readable_iff] at hfilter hother ⊢
  intro p hp
  rcases Document.mem_of_mem_overlay filter other p hp with h | h
  · exact hfilter p h
  · exact hother p h

namespace Listing

/-- The listing that parameters ask for, with fields to search in and a filter
    that they cannot override. -/
def ofParams (params : Params) (searchFields : List String) (base : Document) : Listing :=
  restrict { request := ListRequest.ofParams params, searchFields } base

/-- The page that a listing means, if the documents that match have an order. -/
def meaning (l : Listing) (docs : List Document) : Option Page :=
  (l.ordered docs).map fun sorted =>
    { data := (window l.request sorted).map (Document.pick l.request.fields)
      total := (l.found docs).length }

/-- Where there is a page that is meant, its documents are those of the page. -/
theorem shown_eq_data {l : Listing} {docs : List Document} {page : Page}
    (h : docs.length ≤ Value.maxInt64) (hpage : l.meaning docs = some page) :
    l.shown docs = some page.data ∧ page.total = (l.found docs).length := by
  rcases Option.map_eq_some_iff.mp hpage with ⟨sorted, hsorted, rfl⟩
  -- The sorted documents are no more than those of the collection.
  have hlength : sorted.length ≤ Value.maxInt64 := by
    have hfound := l.length_found_le docs
    have hsame := (perm_of_ordered_eq_some hsorted).length_eq
    omega
  rw [shown_of_ordered_eq_some hsorted, cut_map, cut_eq_of_length_le _ _ hlength]
  exact ⟨rfl, rfl⟩

/-- The filters of a request can be read, whatever its parameters are, with
    those of the base on top. -/
theorem readable_filters_ofParams (params : Params) (searchFields : List String)
    (base : Document) (h : Filter.Readable base) :
    Filter.Readable (ofParams params searchFields base).filters :=
  Filter.readable_overlay _ _ (Request.readable_filters params)
    (Filter.readable_overlay [] base ⟨_, rfl⟩ h)

/-- To run a listing over a store gives the page that it means. There is one if
    the sort has a transitive order to go by, or twenty documents at most. The
    conditions that the page is made by can all be read, and its fields are those
    that the projecting stage would leave. -/
theorem execute_ofParams (s : Store) (name : String) (params : Params)
    (searchFields : List String) (base : Document)
    (hsize : (s.documents name).length ≤ Value.maxInt64)
    (hstore : ∀ d ∈ s.documents name, d.Storable)
    (hfields : ∀ field ∈ Request.fields params, (Path.ofString field).isMarked = false)
    (hsearch : ∀ field ∈ searchFields, Filter.isOperator field = false)
    (hbase : Filter.Readable base)
    (hterm : Searchable (ListRequest.ofParams params).search searchFields) :
    (∀ page, (ofParams params searchFields base).meaning (s.documents name) = some page →
        (ofParams params searchFields base).execute (s.answer name) = .ok page) ∧
      ((SortKeys.ofKeys (Request.sort params)).TransitiveOn
            ((ofParams params searchFields base).found (s.documents name)) ∨
          ((ofParams params searchFields base).found (s.documents name)).length ≤ 20 →
        ∃ page, (ofParams params searchFields base).meaning (s.documents name) = some page) ∧
      Filter.Readable (ofParams params searchFields base).filters ∧
      (∀ clause ∈ searchClause? (ListRequest.ofParams params).search searchFields,
        Filter.Readable clause) ∧
      ∀ docs, Stage.run s.documents
          (Stage.ofDocument (projectStage (fieldsDocument (Request.fields params)))) docs =
        .ok (docs.map (Document.pick (Request.fields params))) := by
  have hfilters := readable_filters_ofParams params searchFields base hbase
  refine ⟨fun page hpage => ?_, fun horder => ?_, hfilters, ?_, ?_⟩
  · rcases shown_eq_data hsize hpage with ⟨hshown, htotal⟩
    have hfound := length_found_le (ofParams params searchFields base) (s.documents name)
    -- The documents are stored ones with fields picked, so they decode to themselves.
    have hstorable : ∀ d ∈ page.data, d.Storable := by
      intro d hd
      rcases mem_of_mem_shown hshown hd with ⟨e, he, rfl⟩
      exact Document.sound_pick _ _ e (hstore e he) hfields
    have hmatch := matches_of_searchable s name (ofParams params searchFields base) hfilters
      hsearch hterm
    rw [execute_of_storable rfl (Request.separate_sort params) hmatch hshown rfl hstorable,
      Nat.min_eq_left (by omega), ← htotal]
  · -- Where there is an order there is a page.
    rcases exists_ordered _ _ horder with ⟨sorted, hsorted⟩
    exact ⟨_, by rw [meaning, hsorted, Option.map_some]⟩
  · intro clause hclause
    exact (accepts_searchClause _ searchFields hterm hsearch clause hclause).1
  · intro docs
    exact Stage.run_projectStage s.documents (Request.fields params) docs

/-- A search term that is too large is refused, in every collection. -/
theorem execute_of_not_searchable (s : Store) (name : String) (params : Params)
    (searchFields : List String) (base : Document)
    (hsearch : ∀ field ∈ searchFields, Filter.isOperator field = false)
    (hbase : Filter.Readable base)
    (hterm : ¬Searchable (ListRequest.ofParams params).search searchFields) :
    (ofParams params searchFields base).execute (s.answer name) =
      .error (.store (PipelineError.filter .largePattern).message) := by
  have hfilters := readable_filters_ofParams params searchFields base hbase
  have hanswer : s.answer name (ofParams params searchFields base).compile = _ :=
    answer_of_not_searchable rfl hfilters hsearch hterm
  rw [execute, hanswer]
  rfl

/-- A store with a collection of people. -/
def sampleStore : Store where
  collections := [("people",
    [[("_id", .int32 1), ("name", .string "Ann"), ("age", .int32 30)],
     [("_id", .int32 2), ("name", .string "Bob"), ("age", .int32 20)],
     [("_id", .int32 3), ("name", .string "Hanna"), ("age", .int32 40)]])]
  supply := .counting ⟨0⟩

/-- Parameters that ask for the first document in which a name is found. -/
def sampleParams : Params :=
  [("sort", ["-age"]), ("fields", ["name"]), ("search", ["ANN"]), ("page", ["1"]),
   ("limit", ["1"])]

/-- A filter for people below an age. -/
def sampleBase : Document :=
  [("age", .document [("$lt", .int32 35)])]

/-- One of the people below the age is found by the name, and no more is shown
    than the name. -/
theorem execute_ofParams_sample :
    (ofParams sampleParams ["name"] sampleBase).execute (sampleStore.answer "people") =
      .ok ⟨[[("_id", .int32 1), ("name", .string "Ann")]], 1⟩ :=
  (execute_ofParams sampleStore "people" sampleParams ["name"] sampleBase (by decide)
    (by decide) (by decide) (by decide) ⟨_, rfl⟩
    fun _ _ => Pattern.fits_of_length_le (by decide) (by decide) (by decide)).1 _ rfl

/-- Parameters with a search term. -/
def searchParams (term : List Char) : Params :=
  [("search", [String.ofList term])]

/-- The term is what the parameters say. -/
theorem search_searchParams (term : List Char) :
    (ListRequest.ofParams (searchParams term)).search = String.ofList term := by
  have hjoin : Params.join [String.ofList term] = term := by
    simp [Params.join, List.intercalate]
  have hget : (searchParams term).get? "search" = some (Params.join [String.ofList term]) := rfl
  rw [ListRequest.ofParams, hget, Option.getD_some, hjoin]

/-- A term that is a very long run of one letter. -/
def largeTerm : List Char :=
  List.replicate 65000 'k'

/-- A very long run of the letter k does not fit. -/
theorem not_searchable_largeTerm {fields : List String} (h : fields ≠ []) :
    ¬Searchable (ListRequest.ofParams (searchParams largeTerm)).search fields := by
  -- The term is long without being written out.
  have hnonempty : String.ofList largeTerm ≠ "" := by
    rw [Ne, String.ofList_eq_empty_iff]
    exact fun hnil => absurd (List.replicate_eq_nil_iff _ |>.mp hnil) (by decide)
  rw [search_searchParams]
  intro hsearchable
  have hfits := hsearchable hnonempty h
  rw [String.toList_ofList, largeTerm, Pattern.fits_replicate_iff (by decide)] at hfits
  exact absurd hfits (by decide)

/-- There is no page for a term that is too large, whether or not it is in the
    documents. -/
theorem execute_large :
    (sampleStore.documents "people").length ≤ Value.maxInt64 ∧
      (∀ d ∈ sampleStore.documents "people", d.Storable) ∧
      Request.fields (searchParams largeTerm) = [] ∧ Filter.isOperator "name" = false ∧
      Filter.Readable [] ∧
      (ofParams (searchParams largeTerm) ["name"] []).execute (sampleStore.answer "people") =
        .error (.store (PipelineError.filter .largePattern).message) :=
  ⟨by decide, by decide, rfl, by decide, ⟨_, rfl⟩,
    execute_of_not_searchable sampleStore "people" _ ["name"] [] (by decide) ⟨_, rfl⟩
      (not_searchable_largeTerm (List.cons_ne_nil _ _))⟩

end Listing

end DocQuery
