import DocQuery.Proofs.Filter.Entries

/-!
# Matching in Parts

A match can be taken apart. To match all of some filters at once is to match
them one after the other, and to match a filter is to match each of its entries.
This holds of errors too: the error of a match is that of the first part that
cannot be read, and it is there even if no document is left to be matched.

The reason is that every form of a match comes to the same two steps. Its parts
are read in order, up to the first that is wrong, and then the documents are
kept that satisfy every part. That a single part stands for itself, and that no
part at all is satisfied by everything, makes no difference for either step.

The order of the parts decides which error comes first and nothing else.

Therefore all parts are read into one list, of filters or of an error, and
`matchOutcome` says what becomes of the documents by such a list. The three
forms of a match differ only in how the list is computed, and two matches are
the same as soon as their lists are.

## Main definitions

* `Filter.every`: The filter that asks for all of some others.
* `Stage.matching`: The stage that matches a filter.
* `Stage.matchOutcome`: What is left of documents by parts that were read.

## Theorems

* `Stage.runAll_matching`, `runAll_matching_every`, `runAll_matching_each`: All
  forms of a match come to that.
* `Stage.runAll_matching_parts`: A match in parts.
-/

namespace DocQuery

/-- The filter that asks for all of some others. -/
def Filter.every (filters : List Document) : Document :=
  [("$and", .array (filters.map .document))]

namespace Stage

/-- The stage that matches a filter. -/
def matching (filter : Document) : Document :=
  [("$match", .document filter)]

/-- What is left of some documents by the parts of a filter, if these could be
    read. -/
def matchOutcome (parts : Except FilterError (List Filter)) (docs : List Document) :
    Except PipelineError (List Document) :=
  match parts with
  | .ok fs => .ok (docs.filter fun d => fs.all fun f => f.holds d)
  | .error e => .error (.filter e)

section

variable (collection : String → List Document)

theorem runAll_singleton (stage : Stage) (docs : List Document) :
    runAll collection [stage] docs = run collection stage docs := by
  rw [runAll]
  rcases run collection stage docs with e | out
  · rfl
  · rfl

/-- A match reads the entries of its filter and keeps what satisfies all of
    them. -/
theorem runAll_matching (filter : Document) (docs : List Document) :
    runAll collection [ofDocument (matching filter)] docs =
      matchOutcome (filter.mapM Filter.readEntry) docs := by
  have hstage : ofDocument (matching filter) = ofFilterDocument filter := rfl
  rw [runAll_singleton, hstage, ofFilterDocument, Filter.read, Filter.readEntries_eq]
  rcases filter.mapM Filter.readEntry with e | fs
  · rfl
  · have hholds : (Filter.conjunction fs).holds = fun d => fs.all fun f => f.holds d :=
      funext (Filter.holds_conjunction fs)
    simp only [Except.map, run, matchOutcome, hholds]

/-- A match of all of some filters reads them in order. -/
theorem runAll_matching_every (filters : List Document) (hne : filters ≠ [])
    (docs : List Document) :
    runAll collection [ofDocument (matching (Filter.every filters))] docs =
      matchOutcome (filters.mapM Filter.read) docs := by
  have hstage : ofDocument (matching (Filter.every filters)) =
      ofFilterDocument (Filter.every filters) := rfl
  rw [runAll_singleton, hstage, ofFilterDocument, Filter.every, Filter.read_match filters hne]
  rcases filters.mapM Filter.read with e | fs
  · rfl
  · have hholds : (Filter.all fs).holds = fun d => fs.all fun f => f.holds d := by
      funext d
      rw [Filter.holds, Filter.holdsAll_eq]
    simp only [Except.map, run, matchOutcome, hholds]

/-- Matches of several filters, one after the other, read all of them, whether
    or not documents are left. -/
theorem runAll_matching_each (filters : List Document) (docs : List Document) :
    runAll collection (filters.map fun filter => ofDocument (matching filter)) docs =
      matchOutcome (filters.mapM Filter.read) docs := by
  induction filters generalizing docs with
  | nil => simp [runAll, matchOutcome, List.mapM_nil, pure, Except.pure]
  | cons filter filters ih =>
      have hstage : ofDocument (matching filter) = ofFilterDocument filter := rfl
      rw [List.map_cons, runAll, List.mapM_cons, hstage, ofFilterDocument]
      rcases Filter.read filter with e | f
      · rfl
      · -- The documents that satisfy the first filter are matched with the others.
        change runAll collection _ (docs.filter f.holds) = _
        rw [ih]
        rcases filters.mapM Filter.read with e | fs
        · rfl
        · simp [matchOutcome, bind, Except.bind, pure, Except.pure, List.filter_filter,
            Bool.and_comm]

/-- A match in parts. To match two filters at once is to match one after the
    other. To match a filter is to match all of its entries, each as a filter of
    its own. And a filter that can be read can be read in every order of its
    entries, and then matches the same documents. -/
theorem runAll_matching_parts (filter second : Document) (docs : List Document) :
    runAll collection [ofDocument (matching (Filter.every [filter, second]))] docs =
        runAll collection [ofDocument (matching filter), ofDocument (matching second)] docs ∧
      (filter ≠ [] →
        runAll collection [ofDocument (matching filter)] docs =
          runAll collection
            [ofDocument (matching (Filter.every (filter.map fun entry => [entry])))] docs) ∧
      (Filter.Readable filter → ∀ other : Document, other.Perm filter →
        Filter.Readable other ∧
          runAll collection [ofDocument (matching other)] docs =
            runAll collection [ofDocument (matching filter)] docs) := by
  refine ⟨?_, fun hne => ?_, fun hread other hperm => ?_⟩
  · rw [runAll_matching_every collection _ (List.cons_ne_nil _ _)]
    exact (runAll_matching_each collection [filter, second] docs).symm
  · have hentries : (filter.map fun entry => [entry]) ≠ [] := by
      rw [ne_eq, List.map_eq_nil_iff]
      exact hne
    have hparts : (filter.map fun entry => [entry]).mapM Filter.read =
        filter.mapM Filter.readEntry := by
      rw [List.mapM_map]
      exact congrArg (filter.mapM ·) (funext Filter.read_singleton)
    rw [runAll_matching, runAll_matching_every collection _ hentries, hparts]
  · have hother : Filter.Readable other := (Filter.readable_perm other filter hperm).mpr hread
    refine ⟨hother, ?_⟩
    rcases hread with ⟨f, hf⟩
    rcases hother with ⟨g, hg⟩
    -- What was read in two orders need not be the same filter, but it accepts the same
    -- documents.
    have hholds : g.holds = f.holds := by
      funext d
      rw [← Filter.accepts_of_read filter f hf, ← Filter.accepts_of_read other g hg]
      exact Filter.accepts_perm other filter hperm d
    have hstage : ∀ filter, ofDocument (matching filter) = ofFilterDocument filter := fun _ => rfl
    rw [hstage, hstage, ofFilterDocument, ofFilterDocument, hf, hg, runAll_singleton,
      runAll_singleton, run, run, hholds]

end

end Stage

end DocQuery
