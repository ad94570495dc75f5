import DocQuery.Pipeline.Join
import DocQuery.Pipeline.Ordering
import DocQuery.Pipeline.Projection

/-!
# Stages

The steps of a pipeline, each of which makes a list of documents from another
one. A pipeline is written as a list of documents with a single name each. What
is wrong with a stage takes its place, so that it counts when the stage is
reached.

## Main definitions

* `Stage`: A step of a pipeline.
* `Stage.ofDocument`: The stage that a document stands for.
* `Stage.run`, `runAll`: What a stage and a pipeline make of some documents.

## Theorems

* `Stage.runAll_append`: A pipeline runs in parts.
-/

namespace DocQuery

/-- A step of a pipeline. -/
inductive Stage where
  | filter (f : Filter)
  | sort (keys : SortKeys)
  | project (p : Projection)
  | addFields (fields : List (Path × Expression))
  | skip (n : Nat)
  | limit (n : Nat)
  | count (name : String)
  | facet (branches : List (String × List Stage))
  | lookup (j : Join)
  | unwind (path : Path) (keepEmpty : Bool)
  | invalid (e : PipelineError)

namespace Stage

/-- A stage that has been read, or what is wrong with it in its place. -/
def ofExcept {α : Type} (make : α → Stage) : Except StageError α → Stage
  | .ok a => make a
  | .error e => invalid (.stage e)

/-- The text under a name. -/
def textUnder (d : Document) (name : String) : Except StageError String :=
  match d.get? name with
  | some (.string s) => .ok s
  | _ => .error (.lookupArgument name)

/-- The join that a document stands for. -/
def readJoin (d : Document) : Except StageError Join := do
  let collection ← textUnder d "from"
  let localPath ← textUnder d "localField"
  let foreignPath ← textUnder d "foreignField"
  let target ← textUnder d "as"
  return ⟨collection, Path.ofString localPath, Path.ofString foreignPath, Path.ofString target⟩

/-- The unwinding of a path that is written with a dollar sign. -/
def ofUnwindPath (path : String) (keepEmpty : Bool) : Stage :=
  match Expression.marked? path with
  | some p => unwind p keepEmpty
  | none => invalid (.stage .unwindPathNotMarked)

/-- The unwinding that an argument stands for. -/
def ofUnwindArgument : Value → Stage
  | .string path => ofUnwindPath path false
  | .document fields => match Document.get? fields "path" with
    | some (.string path) =>
      ofUnwindPath path (match Document.get? fields "preserveNullAndEmptyArrays" with
        | some (.boolean b) => b
        | _ => false)
    | _ => invalid (.stage .unwindPathNotText)
  | _ => invalid (.stage .unwindArgument)

/-- The counting that an argument stands for. -/
def ofCountArgument : Value → Stage
  | .string name =>
    if name.isEmpty || Filter.isOperator name then invalid (.stage .badCountName) else count name
  | _ => invalid (.stage .badCountName)

/-- The filtering that a document stands for. -/
def ofFilterDocument (d : Document) : Stage :=
  match Filter.read d with
  | .ok f => filter f
  | .error e => invalid (.filter e)

/-- The stage with a name whose argument is a count. -/
def ofCount (name : String) (make : Nat → Stage) (v : Value) : Stage :=
  match v.count? with
  | some n => make n
  | none => invalid (.stage (.needsCount name))

/-- The stage with a name whose argument is a document. -/
def ofFields (name : String) (make : Document → Stage) : Value → Stage
  | .document fields => make fields
  | _ => invalid (.stage (.needsDocument name))

/-- The stage that adds the fields of a document. -/
def ofAddedFields (d : Document) : Stage :=
  addFields (d.map fun p => (Path.ofString p.1, Expression.ofValue p.2))

/-- A stage other than a facet by its name and argument. -/
def ofEntry (name : String) (v : Value) : Stage :=
  match name with
  | "$match" => ofFields name ofFilterDocument v
  | "$sort" => ofFields name (fun d => ofExcept sort (SortKeys.ofDocument d)) v
  | "$project" => ofFields name (fun d => ofExcept project (Projection.ofDocument d)) v
  | "$addFields" => ofFields name ofAddedFields v
  | "$set" => ofFields name ofAddedFields v
  | "$skip" => ofCount name skip v
  | "$limit" => ofCount name limit v
  | "$count" => ofCountArgument v
  | "$facet" => invalid (.stage (.needsDocument name))
  | "$lookup" => ofFields name (fun d => ofExcept lookup (readJoin d)) v
  | "$unwind" => ofUnwindArgument v
  | name => invalid (.unsupported name)

mutual

/-- The stage that a document stands for. -/
def ofDocument : List (String × Value) → Stage
  | [(name, .document fields)] =>
    -- Only a facet holds further stages, so all others are read without recursion.
    if name = "$facet" then facet (ofBranches fields) else ofEntry name (.document fields)
  | [(name, v)] => ofEntry name v
  | _ => invalid (.stage .notOneField)

/-- The pipelines of a facet. -/
def ofBranches : List (String × Value) → List (String × List Stage)
  | [] => []
  | (name, v) :: rest => (name, ofBranch name v) :: ofBranches rest

/-- The pipeline in an array. A part that is not a document spoils it as a
    whole. -/
def ofBranch (name : String) : Value → List Stage
  | .array items => match ofItems items with
    | some stages => stages
    | none => [invalid (.stage (.branchStageNotDocument name))]
  | _ => [invalid (.stage (.branchNotArray name))]

/-- The stages that a list of documents stands for. -/
def ofItems : List Value → Option (List Stage)
  | [] => some []
  | .document fields :: items => (ofItems items).map fun stages => ofDocument fields :: stages
  | _ :: _ => none

end

/-- A count as a value: a 32-bit integer if it fits, or else a 64-bit one. -/
def countValue (n : Nat) : Value :=
  if n ≤ Value.maxInt32 then .int32 (.ofNat n) else .int64 (.ofNat (min n Value.maxInt64))

/-- The number of some documents under a name. There is no count of
    nothing. -/
def countDocs (name : String) (docs : List Document) : List Document :=
  if docs.isEmpty then [] else [[(name, countValue docs.length)]]

/-- The outcome of a step that can go wrong on a document. -/
def stageOutcome {α : Type} : Except StageError α → Except PipelineError α
  | .ok a => .ok a
  | .error e => .error (.stage e)

mutual

/-- What a stage makes of some documents. Other collections are looked up by
    name. -/
def run (collection : String → List Document) :
    Stage → List Document → Except PipelineError (List Document)
  | filter f, docs => .ok (docs.filter f.holds)
  | sort keys, docs => match keys.sort docs with
    | some sorted => .ok sorted
    | none => .error .disorder
  | project p, docs => stageOutcome (docs.mapM p.apply)
  | addFields fields, docs => stageOutcome (docs.mapM (DocQuery.addFields fields))
  | skip n, docs => .ok (docs.drop n)
  | limit n, docs => .ok (docs.take n)
  | count name, docs => .ok (countDocs name docs)
  | facet branches, docs => (runBranches collection branches docs).map fun d => [d]
  | lookup j, docs => .ok (docs.map (j.apply (collection j.collection)))
  | unwind path keepEmpty, docs => .ok (docs.flatMap (DocQuery.unwind path keepEmpty))
  | invalid e, _ => .error e

/-- What a pipeline makes of some documents. -/
def runAll (collection : String → List Document) :
    List Stage → List Document → Except PipelineError (List Document)
  | [], docs => .ok docs
  | stage :: rest, docs => do
    let docs ← run collection stage docs
    runAll collection rest docs

/-- What the pipelines of a facet make of the same documents, by name. -/
def runBranches (collection : String → List Document) :
    List (String × List Stage) → List Document → Except PipelineError Document
  | [], _ => .ok []
  | (name, stages) :: rest, docs => do
    -- Every branch starts from the same documents.
    let result ← runAll collection stages docs
    let more ← runBranches collection rest docs
    return (name, .array (result.map .document)) :: more

end

theorem runAll_append (collection : String → List Document) (first second : List Stage)
    (docs : List Document) :
    runAll collection (first ++ second) docs =
      (runAll collection first docs).bind (runAll collection second) := by
  induction first generalizing docs with
  | nil => rfl
  | cons stage first ih =>
      simp only [List.cons_append, runAll]
      cases run collection stage docs with
      | error e => rfl
      | ok docs => exact ih docs

end Stage

end DocQuery
