import DocQuery.Json.Basic

/-!
# Responses

Every response is a status and a JSON object that tells whether the request
succeeded, with a message, the data if it did, and for lists the numbers of
the page.

If the program stops while it answers, nobody gets a response. It is written as
one with status zero, which no response has.

## Main definitions

* `PageNumbers`: The numbers of a page.
* `EndpointError`: Why a request fails.
* `Response`: A status and a body.
-/

namespace DocQuery

/-- The numbers of a page: which one it is, how many documents it has at
    most, and how many documents and pages there are. -/
structure PageNumbers where
  page : Nat
  limit : Nat
  total : Nat
  pageCount : Nat
deriving DecidableEq

namespace PageNumbers

/-- The number of pages of a given length. There are none of length zero. -/
def countPages (total limit : Nat) : Nat :=
  if limit = 0 then 0 else (total + limit - 1) / limit

/-- The numbers of a page. Without a page it is the first, and without a limit
    it has everything. -/
def make (page limit : Option Nat) (total : Nat) : PageNumbers :=
  let limit := limit.getD total
  ⟨page.getD 1, limit, total, countPages total limit⟩

/-- The numbers of a page as JSON. -/
def toJson (n : PageNumbers) : Json :=
  .object [("page", .whole n.page), ("limit", .whole n.limit), ("total", .whole n.total),
    ("totalPage", .whole n.pageCount)]

end PageNumbers

/-- Why a request fails. -/
inductive EndpointError where
  | store (message : String)
  | decode
  | invalidQuery (message : String)
  | invalidId (id : String)
  | notFound (what : String)
  | noRoute
deriving DecidableEq

namespace EndpointError

/-- The status of a failure. -/
def status : EndpointError → Nat
  | store _ => 500
  | decode => 500
  | invalidQuery _ => 400
  | invalidId _ => 400
  | notFound _ => 404
  | noRoute => 404

/-- The message of a failure. -/
def message : EndpointError → String
  | store message => "store error: " ++ message
  | decode => "decode error: an element of the page is not a document"
  | invalidQuery message => "invalid query string: " ++ message
  | invalidId id => "invalid id: " ++ id
  | notFound what => what ++ " not found"
  | noRoute => "not found"

end EndpointError

/-- A status and a body. -/
structure Response where
  status : Nat
  body : Json

namespace Response

/-- The type of every body. -/
def contentType : String := "application/json"

/-- The response to a request that succeeds. -/
def ok (message : String) (data : Json) (numbers : Option PageNumbers) : Response where
  status := 200
  body := .object ([("success", .bool true), ("message", .string message), ("data", data)] ++
    (numbers.map fun n => ("meta", n.toJson)).toList)

/-- The response to a request that fails. -/
def failure (e : EndpointError) : Response where
  status := e.status
  body := .object [("success", .bool false), ("message", .string e.message)]

/-- No response, as the program has stopped. -/
def missing : Response where
  status := 0
  body := .null

/-- The text of the body. -/
def text (r : Response) : List Char :=
  r.body.render

end Response

end DocQuery
