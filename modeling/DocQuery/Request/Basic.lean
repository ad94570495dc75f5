import DocQuery.Request.Comparison
import DocQuery.Request.Params
import DocQuery.Request.SortKey

/-!
# Requests

What the parameters of a request ask for. A request for a list has filters, an
order, a page, a search term, fields and relations; one for a single document
has fields and relations. No parameters are wrong: what cannot be read as
anything more specific is a text, and a page or a limit that is not a positive
number is absent.

Every parameter whose name has no meaning of its own is a filter on the field
of that name.

## Main definitions

* `ListRequest`: A request for a list.
* `SingleRequest`: A request for a single document.
* `ListRequest.ofParams`, `SingleRequest.ofParams`: The request that
  parameters stand for.
-/

namespace DocQuery

open Number

/-- The names with a meaning of their own. -/
def reservedNames : List String :=
  ["page", "sort", "limit", "fields", "search", "populate"]

/-- Has this name a meaning of its own? -/
def isReserved (name : String) : Bool :=
  reservedNames.contains name

/-- The largest number of 64 bits. -/
def maxCount : Nat := UInt64.size - 1

/-- A request for a list. -/
structure ListRequest where
  /-- The page, counted from one. -/
  page : Option Nat
  limit : Option Nat
  /-- The fields to return, or none for all. -/
  fields : List String
  filters : Document
  sort : List SortKey
  search : String
  /-- The relations to expand. -/
  populate : List String

/-- A request for a single document. -/
structure SingleRequest where
  fields : List String
  /-- The names of the relations to expand, with spaces between them. -/
  populate : List Char

/-- The order of a list that is not asked for in another one. -/
def defaultSort : List SortKey := [⟨"createdAt", .descending⟩]

/-- The fields as the argument of a projection. -/
def fieldsDocument (fields : List String) : Document :=
  fields.map fun field => (field, .int32 1)

namespace Request

/-- The names in a text with commas or blanks between them. -/
def names (s : List Char) : List (List Char) :=
  Text.tokens (fun c => c == ',' || Text.isBlank c) s

/-- The names that a parameter lists. -/
def listed (params : Params) (name : String) : List (List Char) :=
  names ((params.get? name).getD [])

/-- Several names as texts, each once. -/
def distinct (tokens : List (List Char)) : List String :=
  (tokens.map String.ofList).eraseDups

/-- The fields that a request asks for. -/
def fields (params : Params) : List String :=
  distinct (listed params "fields")

/-- Skip a plus sign. -/
def skipPlus : List Char → List Char
  | '+' :: s => s
  | s => s

/-- The positive number of 64 bits at the front of a text. -/
def positive? (s : List Char) : Option Nat :=
  let digits := (skipPlus (Text.trimStart s)).takeWhile isDigit
  let n := ofDigits digits
  -- A number that is too large is absent, not the largest one.
  if 0 < n ∧ n ≤ maxCount then some n else none

/-- The value of a filter: a truth value, a number, an identifier or a
    comparison, and otherwise the text. -/
def filterValue (s : List Char) : Value :=
  match Coercion.scalar? s with
  | some v => v
  | none => match if s.contains ',' then Comparison.read? s else none with
    | some c => .document c.document
    | none => Coercion.text s

/-- Is a parameter with this name a filter? -/
def isFilterName (name : String) : Bool :=
  !name.isEmpty && !Filter.isOperator name && !isReserved name

/-- The filters that a request asks for. -/
def filters (params : Params) : Document :=
  Document.ofPairs <| (params.filter fun p => isFilterName p.1).map fun p =>
    (p.1, filterValue (Params.join p.2))

/-- The order that a request asks for. -/
def sort (params : Params) : List SortKey :=
  match SortKey.collect (listed params "sort") with
  | [] => defaultSort
  | keys => keys

end Request

namespace ListRequest

/-- The request that parameters stand for. -/
def ofParams (params : Params) : ListRequest where
  page := (params.get? "page").bind Request.positive?
  limit := (params.get? "limit").bind Request.positive?
  fields := Request.fields params
  filters := Request.filters params
  sort := Request.sort params
  search := String.ofList ((params.get? "search").getD [])
  populate := Request.distinct (Request.listed params "populate")

/-- The number of documents before the page. It is zero without a page or a
    limit, and at most the largest number of 64 bits. -/
def skip (r : ListRequest) : Nat :=
  match r.page, r.limit with
  | some page, some limit => min ((page - 1) * limit) maxCount
  | _, _ => 0

/-- The relations to expand as a document. -/
def populateDocument (r : ListRequest) : Document :=
  r.populate.map fun name => (name, .boolean true)

/-- Is a relation to be expanded? -/
def populates (r : ListRequest) (name : String) : Bool :=
  r.populate.contains name

end ListRequest

namespace SingleRequest

/-- The request that parameters stand for. -/
def ofParams (params : Params) : SingleRequest where
  fields := Request.fields params
  populate := [' '].intercalate (Request.listed params "populate")

/-- The names of the relations to expand. -/
def relations (r : SingleRequest) : List String :=
  (Text.tokens Text.isBlank r.populate).map String.ofList

end SingleRequest

end DocQuery
