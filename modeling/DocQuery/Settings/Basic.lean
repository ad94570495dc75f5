import DocQuery.Endpoint.Profile
import DocQuery.Settings.Address

/-!
# Settings of a Server

The settings of a server are read from variables with fixed names: the address
to listen at, the profile of the collection to serve, and where its documents
are. Lists have commas between their items, and blanks around an item do not
count.

## Main definitions

* `Settings`: The settings of a server.
* `SettingsError`: What can be wrong with the variables.
* `Settings.read`: The settings that variables stand for.
-/

namespace DocQuery

/-- Where the documents are: in memory, perhaps from a seed, or in a
    database. -/
inductive StoreChoice where
  | memory (seed : Option String)
  | database (uri : String) (name : Option String)
deriving DecidableEq

/-- The settings of a server. -/
structure Settings where
  address : SocketAddress
  profile : Profile
  store : StoreChoice

/-- What can be wrong with the variables. -/
inductive SettingsError where
  | missing (name : String)
  | invalid (name value : String)
deriving DecidableEq

/-- The description of what is wrong. -/
def SettingsError.message : SettingsError → String
  | missing name => name ++ " is required"
  | invalid name value => "invalid " ++ name ++ ": " ++ value

namespace Settings

/-- The address without a setting for it. -/
def defaultAddress : String := "0.0.0.0:8080"

/-- The items of a list. -/
def items (s : List Char) : List (List Char) :=
  ((Text.pieces (· == ',') s).map Text.trim).filter fun item => !item.isEmpty

/-- The items of a variable with a list. -/
def listed (env : String → Option String) (name : String) : List String :=
  (items ((env name).getD "").toList).map String.ofList

/-- A variable, unless it is blank. -/
def filled? (env : String → Option String) (name : String) : Option String :=
  (env name).filter fun s => !(Text.trim s.toList).isEmpty

/-- The address to listen at. -/
def readAddress (env : String → Option String) : Except SettingsError SocketAddress :=
  let text := (env "SIFT_ADDR").getD defaultAddress
  match SocketAddress.read? text.toList with
  | some address => .ok address
  | none => .error (.invalid "SIFT_ADDR" text)

/-- The name of the collection. -/
def readName (env : String → Option String) : Except SettingsError String :=
  match filled? env "SIFT_COLLECTION" with
  | some s => .ok (String.ofList (Text.trim s.toList))
  | none => .error (.missing "SIFT_COLLECTION")

/-- The relations of the collection. -/
def readRelations (env : String → Option String) : Except SettingsError (List Relation) :=
  (listed env "SIFT_RELATIONS").mapM fun s => match Relation.parse? s.toList with
    | some r => .ok r
    | none => .error (.invalid "SIFT_RELATIONS" s)

/-- Where the documents are. -/
def storeChoice (env : String → Option String) : StoreChoice :=
  -- With a database there is nothing to seed.
  match filled? env "SIFT_MONGODB_URI" with
  | some uri => .database uri (filled? env "SIFT_MONGODB_DATABASE")
  | none => .memory (filled? env "SIFT_SEED")

/-- The settings that variables stand for. -/
def read (env : String → Option String) : Except SettingsError Settings := do
  let address ← readAddress env
  let name ← readName env
  let relations ← readRelations env
  return {
    address
    profile := {
      name
      searchFields := listed env "SIFT_SEARCH_FIELDS"
      relations
      hiddenFields := listed env "SIFT_HIDDEN_FIELDS"
      fieldNames := listed env "SIFT_FIELDS" }
    store := storeChoice env }

end Settings

end DocQuery
