import DocQuery.Store.Seed

/-!
# Sessions

What is done with a store, one operation after the other. A collection is
reached through the store or through a handle, which keeps its name. Handles
hold no documents, so whatever is done through one is done to the store that
all of them belong to.

## Main definitions

* `Handle`: A handle to a collection.
* `Access`: How a collection is reached.
* `Operation`, `Reply`: What is done with a store, and what is returned.
* `Store.perform`, `Store.performAll`: An operation, and several in a row.
-/

namespace DocQuery

/-- A handle to a collection, which need not be there yet. -/
structure Handle where
  name : String

namespace Handle

/-- Add documents to the collection. Their identifiers are returned. -/
def insert (h : Handle) (s : Store) (docs : List Document) : Store × List Value :=
  s.insert h.name docs

/-- Run a pipeline over the collection. -/
def aggregate (h : Handle) (s : Store) (pipeline : List Document) :
    Except PipelineError (List Document) :=
  s.aggregate h.name pipeline

/-- The number of documents of the collection. -/
def count (h : Handle) (s : Store) : Nat :=
  s.count h.name

end Handle

/-- How a collection is reached: by its name, or through a handle. -/
inductive Access where
  | direct (name : String)
  | handle (h : Handle)

namespace Access

/-- The name of the collection that is reached. -/
def collection : Access → String
  | direct name => name
  | handle h => h.name

def insert (s : Store) (docs : List Document) : Access → Store × List Value
  | direct name => s.insert name docs
  | handle h => h.insert s docs

def aggregate (s : Store) (pipeline : List Document) :
    Access → Except PipelineError (List Document)
  | direct name => s.aggregate name pipeline
  | handle h => h.aggregate s pipeline

def count (s : Store) : Access → Nat
  | direct name => s.count name
  | handle h => h.count s

end Access

/-- What is done with a store. -/
inductive Operation where
  | insert (access : Access) (docs : List Document)
  | aggregate (access : Access) (pipeline : List Document)
  | count (access : Access)
  | seed (name : String) (text : List Char)

/-- What an operation returns. -/
inductive Reply where
  | identifiers (ids : List Value)
  | documents (outcome : Except PipelineError (List Document))
  | count (n : Nat)
  | seeded (outcome : Except SeedError Nat)

namespace Store

/-- A store that was never written to. -/
def empty (supply : Supply) : Store where
  supply

/-- What an operation makes of a store, and what it returns. -/
def perform (s : Store) : Operation → Store × Reply
  | .insert access docs =>
    let (s, ids) := access.insert s docs
    (s, .identifiers ids)
  | .aggregate access pipeline => (s, .documents (access.aggregate s pipeline))
  | .count access => (s, .count (access.count s))
  | .seed name text =>
    let (s, outcome) := s.seed name text
    (s, .seeded outcome)

/-- What several operations in a row make of a store. -/
def performAll (s : Store) (operations : List Operation) : Store :=
  operations.foldl (fun s operation => (s.perform operation).1) s

end Store

end DocQuery
