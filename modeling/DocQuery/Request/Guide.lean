import DocQuery.Request.Basic

/-!
# Guide to Parameters

Descriptions of the parameters that requests accept, made from the names of
the fields of a collection.

## Main definitions

* `ParamGuide`: The description of a parameter.
* `ParamGuide.forList`, `forSingle`: The parameters of the two kinds of
  requests.
-/

namespace DocQuery

/-- The description of a parameter. -/
structure ParamGuide where
  name : String
  description : String
  sample : Option String := none
deriving DecidableEq

namespace ParamGuide

/-- The fields to describe: those that have no other meaning and are not
    excluded. -/
def shown (fields excluded : List String) : List String :=
  fields.filter fun f => !isReserved f && !excluded.contains f

/-- The description of the parameter for fields. The first two are its
    sample. -/
def ofFields (fields : List String) : ParamGuide where
  name := "fields"
  description := "Comma-separated fields to return"
  sample :=
    let sample := String.intercalate "," (fields.take 2)
    if sample.isEmpty then none else some sample

/-- The description of the parameter for relations. -/
def ofRelations : ParamGuide where
  name := "populate"
  description := "Comma-separated relations to expand"

/-- The description of a filter on a field. -/
def ofFilter (field : String) : ParamGuide where
  name := field
  description :=
    "Filter by `" ++ field ++ "`: a value, or `gte|gt|lte|lt,value` for a range"

/-- The parameters of a request for a list. -/
def forList (fields excluded : List String) : List ParamGuide :=
  let fields := shown fields excluded
  -- The reserved names come first, then one filter for each field.
  [ { name := "page", description := "1-based page number", sample := some "1" },
    { name := "limit", description := "Page size; omit for all documents", sample := some "10" },
    { name := "sort"
      description := "Comma-separated fields; prefix with `-` for descending. " ++
        "Defaults to `-createdAt`"
      sample := some "-createdAt,name" },
    ofFields fields,
    { name := "search", description := "Case-insensitive text search" },
    ofRelations ] ++ fields.map ofFilter

/-- The parameters of a request for a single document. -/
def forSingle (fields excluded : List String) : List ParamGuide :=
  [ofFields (shown fields excluded), ofRelations]

end ParamGuide

end DocQuery
