import DocQuery.Pattern.Escape
import DocQuery.Request.Basic

/-!
# Stages of a Listing

The stages that a request for a list is made of, written as documents: the
match of filters and of the search term, the order, the fields, the page, and
the facet that brings the page together with the number of all matches.

A search term is escaped, so that no character of it has a special meaning.

## Main definitions

* `Listing.searchClause?`: The condition for a search term.
* `Listing.matchStage?`, `sortStage`, `projectStage`, `pageStages`,
  `facetStage`, `totalStage`: The stages.
-/

namespace DocQuery

namespace Listing

/-- A stage with a document as its argument. -/
def stage (name : String) (fields : Document) : Document :=
  [(name, .document fields)]

/-- The name of the documents of a page. -/
def dataName : String := "data"

/-- The name of the number of matches. -/
def totalName : String := "total"

/-- The condition that a term occurs in a field, whatever its case. -/
def searchCondition (term field : String) : Document :=
  [(field, .document
    [("$regex", .string (String.ofList (Pattern.quote term.toList))),
     ("$options", .string "i")])]

/-- The condition that a term occurs in one of the fields. There is none
    without a term or without fields. -/
def searchClause? (term : String) (fields : List String) : Option Document :=
  if term.isEmpty || fields.isEmpty then none
  else some [("$or", .array (fields.map fun field => .document (searchCondition term field)))]

/-- The stage that matches filters and a search clause. There is none without
    either. -/
def matchStage? (filters : Document) (search : Option Document) : Option Document :=
  match (if filters.isEmpty then [] else [filters]) ++ search.toList with
  | [] => none
  | clauses => some (stage "$match" [("$and", .array (clauses.map .document))])

/-- The stage that sorts. -/
def sortStage (keys : Document) : Document :=
  stage "$sort" keys

/-- The stage that keeps some fields. Without fields it adds nothing, which
    keeps all of them. -/
def projectStage (fields : Document) : Document :=
  if fields.isEmpty then stage "$addFields" [] else stage "$project" fields

/-- A count as a 64-bit integer, or the largest one. -/
def countValue (n : Nat) : Value :=
  .int64 (.ofNat (min n Value.maxInt64))

/-- The stages that cut out a page, if there is a limit. -/
def pageStages (skip : Nat) : Option Nat → List Document
  | some limit => [[("$skip", countValue skip)], [("$limit", countValue limit)]]
  | none => []

/-- The stage that makes the documents of a page and the number of matches
    side by side. -/
def facetStage (data : List Document) : Document :=
  stage "$facet"
    [(dataName, .array (data.map .document)),
     (totalName, .array [.document [("$count", .string totalName)]])]

/-- The stage that takes the number of matches out of its list, which is empty
    if nothing matched. -/
def totalStage : Document :=
  stage "$project"
    [(totalName, .document
      [("$ifNull", .array
        [.document [("$arrayElemAt", .array [.string "$total.total", .int32 0])], .int32 0])]),
     (dataName, .int32 1)]

end Listing

end DocQuery
