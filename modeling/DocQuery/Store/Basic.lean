import DocQuery.Pipeline.Stage

/-!
# Document Stores

A store has named collections of documents. Documents are only ever added, at
the end of a collection; one without an identifier gets a new one in front of
its other entries. Running a pipeline changes nothing, and a collection that
was never written to is empty.

How new identifiers come about is not the store's matter. It takes them from a
supply, one after the other, and nothing here depends on what they are. That no
two of them are the same is up to the supply.

## Main definitions

* `Supply`: Where new identifiers come from.
* `Store`: Named collections.
* `Store.documents`, `count`, `names`: What is there.
* `Store.insert`: Add documents to a collection.
* `Store.aggregate`: Run a pipeline over a collection.

## Theorems

* `Store.documents_insert_self`: The documents of a batch come after those
  that are there.
* `Store.documents_insert_of_ne`: Other collections stay as they are.
-/

namespace DocQuery

/-- The new identifiers in the order in which they are made. -/
abbrev Supply := Nat → ObjectId

namespace Supply

/-- The supply that counts up from an identifier. -/
def counting (first : ObjectId) : Supply := fun n =>
  ⟨first.code + BitVec.ofNat 96 n⟩

end Supply

/-- Named collections of documents, a supply of identifiers and how many of them
    have been made. -/
structure Store where
  collections : List (String × List Document) := []
  supply : Supply
  made : Nat := 0

namespace Store

/-- The documents under a name. -/
def find : List (String × List Document) → String → List Document
  | [], _ => []
  | (k, docs) :: rest, name => if k = name then docs else find rest name

/-- Add documents under a name, even if there are none to add. -/
def extend : List (String × List Document) → String → List Document →
    List (String × List Document)
  | [], name, docs => [(name, docs)]
  | (k, old) :: rest, name, docs =>
    if k = name then (k, old ++ docs) :: rest else (k, old) :: extend rest name docs

/-- The documents of a collection. -/
def documents (s : Store) (name : String) : List Document :=
  find s.collections name

/-- The number of documents of a collection. -/
def count (s : Store) (name : String) : Nat :=
  (s.documents name).length

/-- The names of the collections in order. -/
def names (s : Store) : List String :=
  (s.collections.map Prod.fst).mergeSort fun a b => a ≤ b

/-- Give each document that has no identifier a new one, when so many have been
    made. -/
def identify (supply : Supply) : Nat → List Document → Nat × List Document
  | made, [] => (made, [])
  | made, d :: docs =>
    if d.contains "_id" then
      let (made, rest) := identify supply made docs
      (made, d :: rest)
    else
      let (next, rest) := identify supply (made + 1) docs
      (next, (("_id", .objectId (supply made)) :: d) :: rest)

/-- Add documents to a collection. Their identifiers are returned. -/
def insert (s : Store) (name : String) (docs : List Document) : Store × List Value :=
  -- The collection comes to be even if there are no documents.
  let (made, docs) := identify s.supply s.made docs
  ({ s with collections := extend s.collections name docs, made },
    docs.filterMap fun d => d.get? "_id")

/-- Run a pipeline over a collection. -/
def aggregate (s : Store) (name : String) (pipeline : List Document) :
    Except PipelineError (List Document) :=
  Stage.runAll s.documents (pipeline.map Stage.ofDocument) (s.documents name)

/-- What a store says to a pipeline over a collection. -/
def answer (s : Store) (name : String) (pipeline : List Document) : Answer :=
  (s.aggregate name pipeline).mapError PipelineError.failure

theorem find_extend_self (cs : List (String × List Document)) (name : String)
    (docs : List Document) : find (extend cs name docs) name = find cs name ++ docs := by
  induction cs with
  | nil => simp [extend, find]
  | cons c cs ih =>
      rcases c with ⟨k, old⟩
      by_cases h : k = name <;> simp [extend, find, h, ih]

theorem find_extend_of_ne (cs : List (String × List Document)) (name other : String)
    (docs : List Document) (h : other ≠ name) :
    find (extend cs name docs) other = find cs other := by
  induction cs with
  | nil => simp [extend, find, h.symm]
  | cons c cs ih =>
      rcases c with ⟨k, old⟩
      by_cases hk : k = name
      · subst hk
        simp [extend, find, h.symm]
      · rw [extend, if_neg hk, find, find, ih]

theorem documents_insert_self (s : Store) (name : String) (docs : List Document) :
    (s.insert name docs).1.documents name =
      s.documents name ++ (identify s.supply s.made docs).2 :=
  find_extend_self s.collections name _

theorem documents_insert_of_ne (s : Store) (name other : String) (docs : List Document)
    (h : other ≠ name) : (s.insert name docs).1.documents other = s.documents other :=
  find_extend_of_ne s.collections name other _ h

end Store

end DocQuery
