import DocQuery.Json.Reader
import DocQuery.Store.Basic
import DocQuery.Text.Utf8
import DocQuery.Value.OfJson

/-!
# Seeding a Store

A store is filled from a JSON text: an array of documents for one collection,
or an object with an array for each of several collections. The documents are
in extended form.

The collections are filled one after the other, each of them as a whole. What
is wrong with one leaves those before it filled.

## Main definitions

* `SeedError`: Why a text is no seed.
* `Store.seed`: Fill a store from a text.
* `Store.seedFile`: Fill a store from the bytes of a file.
-/

namespace DocQuery

/-- Why a text is no seed. -/
inductive SeedError where
  | unreadable
  | json
  | extendedJson
  | shape
deriving DecidableEq

/-- The description of what is wrong with a seed. -/
def SeedError.message : SeedError → String
  | unreadable => "failed to read the seed"
  | json => "invalid seed json"
  | extendedJson => "invalid extended json"
  | shape => "seed must be an array of objects, or an object mapping collection names to arrays"

namespace Store

/-- The document that a JSON value stands for. -/
def seedDocument (j : Json) : Except SeedError Document :=
  match Value.ofJson? j with
  | some (.document d) => .ok d
  | some _ => .error .shape
  | none => .error .extendedJson

/-- Fill a collection. The number of new documents is returned. -/
def seedCollection (s : Store) (name : String) (items : List Json) :
    Store × Except SeedError Nat :=
  -- All documents are read before the first is added.
  match items.mapM seedDocument with
  | .error e => (s, .error e)
  | .ok docs =>
    let (s, ids) := s.insert name docs
    (s, .ok ids.length)

/-- Fill several collections. The number of documents before is given. -/
def seedCollections (s : Store) (inserted : Nat) : List (String × Json) →
    Store × Except SeedError Nat
  | [] => (s, .ok inserted)
  | (name, .array items) :: rest =>
    match s.seedCollection name items with
    -- The collections before this one stay filled.
    | (s, .error e) => (s, .error e)
    | (s, .ok n) => seedCollections s (inserted + n) rest
  | _ :: _ => (s, .error .shape)

/-- Fill a store from a text. An array is for the collection with the given
    name. -/
def seed (s : Store) (name : String) (text : List Char) : Store × Except SeedError Nat :=
  match Json.read? text with
  | some (.array items) => s.seedCollection name items
  | some (.object fields) => s.seedCollections 0 fields
  | some _ => (s, .error .shape)
  | none => (s, .error .json)

/-- Fill a store from the bytes of a file, if there is one. -/
def seedFile (s : Store) (name : String) (bytes : Option (List UInt8)) :
    Store × Except SeedError Nat :=
  match bytes.bind Text.Utf8.decode? with
  | some text => s.seed name text
  | none => (s, .error .unreadable)

end Store

end DocQuery
