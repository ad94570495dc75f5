import DocQuery.Endpoint.Call
import DocQuery.Endpoint.Profile
import DocQuery.Endpoint.Response
import DocQuery.Listing.Basic
import DocQuery.Request.Guide
import DocQuery.Value.Extended

/-!
# Answering Calls

A collection answers three calls: for the list of its documents, for one
document by its identifier, and for a description of the parameters. Every
other call has no route.

What a call needs is a plan: either the response is known at once, or a
pipeline has to be run, whose outcome gives the response. Hidden fields are
left out of the filters, the order and the fields of a request, and are removed
from every document that is returned.

## Main definitions

* `Plan`: How a call is answered.
* `Profile.listing`: The listing that a request for a list makes.
* `Profile.lookupPipeline`: The pipeline for a single document.
* `Profile.plan`: The plan for a call.
* `Profile.handle`: The response to a call over a store.
-/

namespace DocQuery

/-- How a call is answered: at once, or by way of a pipeline. -/
inductive Plan where
  | done (r : Response)
  | ask (pipeline : List Document) (respond : Answer → Response)

namespace Plan

/-- The response of a plan over a store. -/
def run (plan : Plan) (store : List Document → Answer) : Response :=
  match plan with
  | done r => r
  | ask pipeline respond => respond (store pipeline)

/-- The pipelines that a plan sends to a store. -/
def pipelines : Plan → List (List Document)
  | done _ => []
  | ask pipeline _ => [pipeline]

end Plan

namespace Profile

/-- The entries of a document that are not hidden. -/
def visible (p : Profile) (d : Document) : Document :=
  d.filter fun entry => !p.isHidden entry.1

/-- The fields that are not hidden. -/
def visibleFields (p : Profile) (fields : List String) : List String :=
  fields.filter fun field => !p.isHidden field

/-- The keys that are not hidden, or the default order if there are none. -/
def visibleSort (p : Profile) (keys : List SortKey) : List SortKey :=
  match keys.filter fun key => !p.isHidden key.field with
  | [] => defaultSort
  | keys => keys

/-- A document without the hidden fields. -/
def redact (p : Profile) (d : Document) : Document :=
  p.hiddenFields.foldl Document.erase d

/-- The relations with the given names. -/
def relationsNamed (p : Profile) (names : List String) : List Relation :=
  names.filterMap p.relation?

/-- Add names to others, each once. -/
def including (fields more : List String) : List String :=
  (fields ++ more).eraseDups

/-- Fields together with those that relations start from. No fields stand for
    all of them and stay none. -/
def withLocalFields (fields : List String) (relations : List Relation) : List String :=
  if fields.isEmpty then [] else including fields (relations.map Relation.localField)

/-- The listing that a request for a list makes. -/
def listing (p : Profile) (r : ListRequest) : Listing :=
  let relations := p.relationsNamed r.populate
  -- A relation can only be followed if the projection keeps the field it starts from.
  { request :=
      { r with
        filters := p.visible r.filters
        fields := withLocalFields (p.visibleFields r.fields) relations
        sort := p.visibleSort r.sort }
    searchFields := p.searchFields
    stagesAfter := relations.flatMap Relation.stages }

/-- A document as it is returned. -/
def present (p : Profile) (d : Document) : Json :=
  (Value.document (p.redact d)).plain

/-- The message of a request that finds something. -/
def retrieved (p : Profile) : String :=
  p.name ++ " retrieved successfully"

/-- The response to a request for a list. -/
def listResponse (p : Profile) (r : ListRequest) (answer : Answer) : Response :=
  match Listing.page answer with
  | .error (.store message) => .failure (.store message)
  | .error .decode => .failure .decode
  | .error .stopped => .missing
  | .ok page =>
    .ok p.retrieved (.array (page.data.map p.present))
      (some (.make r.page r.limit page.total))

/-- The stage that keeps some fields and the identifier. -/
def singleProjection (fields : List String) (relations : List Relation) : List Document :=
  if fields.isEmpty then []
  else [Listing.stage "$project"
    (fieldsDocument (including fields ("_id" :: relations.map Relation.localField)))]

/-- The pipeline for a single document. -/
def lookupPipeline (p : Profile) (id : ObjectId) (r : SingleRequest) : List Document :=
  let relations := p.relationsNamed r.relations
  [Listing.stage "$match" [("_id", .objectId id)], [("$limit", .int64 1)]] ++
    singleProjection (p.visibleFields r.fields) relations ++
    relations.flatMap Relation.stages

/-- The response to a request for a single document. -/
def singleResponse (p : Profile) (answer : Answer) : Response :=
  match answer with
  | .error (.failed message) => .failure (.store message)
  | .error .stopped => .missing
  | .ok [] => .failure (.notFound p.name)
  | .ok (d :: _) => .ok p.retrieved (p.present d) none

/-- The description of a parameter as JSON. -/
def guideJson (g : ParamGuide) : Json :=
  .object ([("name", .string g.name), ("description", .string g.description)] ++
    (g.sample.map fun s => ("example", Json.string s)).toList)

/-- The response to a request for the parameters. -/
def guideResponse (p : Profile) : Response :=
  .ok (p.name ++ " query parameters")
    (.object
      [("list", .array ((ParamGuide.forList p.fieldNames p.hiddenFields).map guideJson)),
       ("single", .array ((ParamGuide.forSingle p.fieldNames p.hiddenFields).map guideJson))])
    none

/-- Where a path leads. -/
inductive Route where
  | list
  | guide
  | single (id : List Char)
  | none
deriving DecidableEq

/-- A path without the slashes at its end. -/
def trimSlashes (path : List Char) : List Char :=
  (path.reverse.dropWhile (· == '/')).reverse

/-- Where a path leads. Slashes at its end do not count. -/
def route (path : List Char) : Route :=
  match trimSlashes path with
  | [] => .list
  | '/' :: segment =>
    -- The segment is not empty, as the last slashes are gone.
    if segment = "_params".toList then .guide
    else if segment.contains '/' then .none
    else .single segment
  | _ => .none

/-- The plan for a call. -/
def plan (p : Profile) (call : Call) : Plan :=
  -- Collections are read-only, whatever the path is.
  if call.method ≠ "GET".toList then .done (.failure .noRoute)
  else
    let params := Params.parse (call.target.query.getD [])
    match route call.target.path with
    | .list =>
      let r := ListRequest.ofParams params
      .ask (p.listing r).compile (p.listResponse r)
    | .guide => .done p.guideResponse
    | .single segment => match ObjectId.read? segment with
      | some id => .ask (p.lookupPipeline id (SingleRequest.ofParams params)) p.singleResponse
      | none => .done (.failure (.invalidId (String.ofList segment)))
    | .none => .done (.failure .noRoute)

/-- The response to a call over a store. -/
def handle (p : Profile) (call : Call) (store : List Document → Answer) : Response :=
  (p.plan call).run store

end Profile

end DocQuery
