import DocQuery.Filter.Reader

/-!
# Errors of Pipelines

What can be wrong with a pipeline. Some of it shows only when the stage is
reached, or when an expression meets a document.

One thing is worse than the others. A sort gives up when the order of the
documents turns out to be none, and the program stops then. Whoever asked for
the documents hears nothing, not even a description of what is wrong.

## Main definitions

* `StageError`: What can be wrong with a stage.
* `PipelineError`: What can be wrong with a pipeline.
* `PipelineError.message`: Its description.
* `StoreFailure`: How a store fails.
* `Answer`: What a store says to a pipeline.
-/

namespace DocQuery

/-- What can be wrong with a stage. -/
inductive StageError where
  | notOneField
  | needsDocument (stage : String)
  | needsCount (stage : String)
  | badDirection (field : String)
  | mixedProjection
  | badCountName
  | branchNotArray (branch : String)
  | branchStageNotDocument (branch : String)
  | lookupArgument (name : String)
  | unwindPathNotText
  | unwindArgument
  | unwindPathNotMarked
  | elementOfNoArray
  | elementIndex
  | alternativesNotArray
  | noAlternatives
  | argumentCount (operator : String)
  | unknownExpression (operator : String)
deriving DecidableEq

/-- The description of what is wrong with a stage. -/
def StageError.message : StageError → String
  | notOneField => "a stage must have exactly one field"
  | needsDocument stage => stage ++ " expects a document"
  | needsCount stage => stage ++ " expects a non-negative integer"
  | badDirection field => "$sort direction for " ++ field ++ " must be 1 or -1"
  | mixedProjection => "$project cannot mix inclusion and exclusion"
  | badCountName => "$count expects a non-empty field name"
  | branchNotArray branch => "$facet." ++ branch ++ " must be an array of stages"
  | branchStageNotDocument branch => "$facet." ++ branch ++ " stages must be documents"
  | lookupArgument name => "$lookup requires a string " ++ name
  | unwindPathNotText => "$unwind requires a string path"
  | unwindArgument => "$unwind expects a path or a document"
  | unwindPathNotMarked => "$unwind path must start with '$'"
  | elementOfNoArray => "$arrayElemAt first argument must be an array"
  | elementIndex => "$arrayElemAt index must be an integer"
  | alternativesNotArray => "$ifNull expects an array"
  | noAlternatives => "$ifNull needs at least one argument"
  | argumentCount operator => operator ++ " expects two arguments"
  | unknownExpression operator => "unsupported expression operator: " ++ operator

/-- What can be wrong with a pipeline. -/
inductive PipelineError where
  | filter (e : FilterError)
  | stage (e : StageError)
  | unsupported (name : String)
  /-- A sort gives up, and the program stops. -/
  | disorder
deriving DecidableEq

/-- The description of what is wrong with a pipeline. -/
def PipelineError.message : PipelineError → String
  | filter e => "invalid filter: " ++ e.message
  | stage e => "invalid pipeline: " ++ e.message
  | unsupported name => "unsupported stage: " ++ name
  | disorder => "user-provided comparison function does not correctly implement a total order"

/-- How a store fails: with a description of what is wrong, or without any, as
    the program has stopped. -/
inductive StoreFailure where
  | failed (message : String)
  | stopped
deriving DecidableEq

/-- How a store fails by what is wrong with a pipeline. -/
def PipelineError.failure : PipelineError → StoreFailure
  | disorder => .stopped
  | e => .failed e.message

/-- What a store says to a pipeline: documents, or how it fails. -/
abbrev Answer := Except StoreFailure (List Document)

end DocQuery
