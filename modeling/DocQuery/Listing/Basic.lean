import DocQuery.Listing.Page

/-!
# Listings

A listing is a request for a list together with what the program adds to it:
the fields to search in, a filter that the request cannot override, and further
stages before the match and within the page. It is compiled into a pipeline in
a fixed order:

* the stages that come first;
* the match of the filters and the search term;
* the order;
* the fields;
* the facet of the page, with the further stages after its limits, and of the
  number of matches;
* the projection of that number.

## Main definitions

* `Listing`: A request for a list and what is added to it.
* `Listing.compile`: Its pipeline.
* `ListingError`: Why there is no page.
* `Listing.page`: The page in the answer of a store.
-/

namespace DocQuery

/-- A request for a list and what is added to it. -/
structure Listing where
  request : ListRequest
  searchFields : List String := []
  baseFilter : Document := []
  stagesBefore : List Document := []
  stagesAfter : List Document := []

/-- Why there is no page: the store failed, its answer is no page, or the program
    has stopped. -/
inductive ListingError where
  | store (message : String)
  | decode
  | stopped

namespace Listing

/-- Add to the base filter. A field that has a condition gets the new one. -/
def restrict (l : Listing) (filter : Document) : Listing :=
  { l with baseFilter := l.baseFilter.overlay filter }

/-- The filters of the request, overridden by the base filter. -/
def filters (l : Listing) : Document :=
  l.request.filters.overlay l.baseFilter

/-- The match of the filters and the search term. -/
def matchStages (l : Listing) : List Document :=
  (matchStage? l.filters (searchClause? l.request.search l.searchFields)).toList

/-- The stages for the documents of the page. -/
def dataStages (l : Listing) : List Document :=
  pageStages l.request.skip l.request.limit ++ l.stagesAfter

/-- The pipeline of a listing. -/
def compile (l : Listing) : List Document :=
  l.stagesBefore ++ l.matchStages ++
    [sortStage (SortKey.document l.request.sort),
     projectStage (fieldsDocument l.request.fields),
     facetStage l.dataStages,
     totalStage]

/-- The page in the answer of a store to the pipeline. -/
def page (answer : Answer) : Except ListingError Page :=
  match answer with
  | .error (.failed message) => .error (.store message)
  | .error .stopped => .error .stopped
  -- The pipeline makes one document, and none at all stands for an empty page.
  | .ok docs => match Page.ofAnswer? docs with
    | some page => .ok page
    | none => .error .decode

/-- What a listing gives over a store. -/
def execute (l : Listing) (store : List Document → Answer) : Except ListingError Page :=
  page (store l.compile)

end Listing

end DocQuery
