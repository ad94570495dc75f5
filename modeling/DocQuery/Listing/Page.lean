import DocQuery.Listing.Stages
import DocQuery.Value.Decode

/-!
# Pages

The answer to a request for a list: the documents of a page and the number of
all matches. A store answers with a document that has both; a number that is
missing or negative counts as zero.

## Main definitions

* `Page`: The documents of a page and the number of matches.
* `Page.ofDocument?`: The page in the answer of a store.
* `Page.ofAnswer?`: The page in the first document of an answer.
-/

namespace DocQuery

open Number

/-- The documents of a page and the number of all matches. -/
structure Page where
  data : List Document
  total : Nat

namespace Page

/-- The page of an answer without documents. -/
def empty : Page := ⟨[], 0⟩

/-- The number of matches that a value stands for. -/
def totalOf : Option Value → Nat
  | some (.double x) =>
    -- A number that is too large for a count is the largest one, like infinity.
    if x.isNaN || x.negative then 0
    else if x.isFinite then min x.truncate maxCount
    else maxCount
  | some v => (v.integer?.getD 0).toNat
  | none => 0

/-- The document that an element of a page stands for. -/
def decodeItem? : Value → Option Document
  | .document fields => Document.decode? fields
  | _ => none

/-- The page in the answer of a store. There is none if an element is not a
    document. -/
def ofDocument? (d : Document) : Option Page :=
  match d.get? Listing.dataName with
  | some (.array items) =>
    (items.mapM decodeItem?).map fun data => ⟨data, totalOf (d.get? Listing.totalName)⟩
  | _ => some ⟨[], totalOf (d.get? Listing.totalName)⟩

/-- The page in the first document of an answer. -/
def ofAnswer? : List Document → Option Page
  | [] => some empty
  | d :: _ => ofDocument? d

end Page

end DocQuery
