import DocQuery.Listing.Basic
import DocQuery.Proofs.Listing.Search
import DocQuery.Proofs.Pipeline.Fields
import DocQuery.Proofs.Pipeline.Ordering
import DocQuery.Proofs.Request.Order
import DocQuery.Proofs.Value.Decode
import DocQuery.Store.Basic

/-!
# Running a Listing

What the pipeline of a listing makes of a collection. Each stage is read as the
operation it stands for, so the answer of a store is a page of the matching
documents, in order and with the fields picked, and the number of all of them.

Further stages for the documents of the page are taken as they are, as long as
they make a list of documents from every list.

Two of the stages can fail for a request. The match fails for a search term that
is too large, and the sort gives up where it finds that the documents have no
order. So the documents in order are an option (`Listing.ordered`), and so is all
that is made of them. What a failed stage makes of the answer is stated beside
what a successful one does: the lemmas on the answer of a store come in pairs.

The counts of the pages are 64-bit integers on their way to the store, and a
larger number becomes the largest of them. `Listing.cut` has that bound in it
and `Listing.window` has not. They agree on every list that could be in memory,
and the theorems about pages say so with a hypothesis on the number of
documents.

The facet is what makes this more than a composition of stages. It runs two
pipelines on one list: the page, which may itself be a pipeline with joins in
it, and the count. Its result is one document with two arrays, out of which the
last stage takes the number, with a zero where the count has nothing to count.

## Main definitions

* `Listing.found`: The documents that match a listing.
* `Listing.cut`: The part of a list that a request asks for.
* `Listing.ordered`: The documents that match a listing, in its order.
* `Listing.shown`: The documents of a page before further stages.
* `Listing.Matches`: The match of a listing succeeds.

## Theorems

* `Listing.exists_ordered`: Documents that have an order.
* `Listing.run_facetStage`, `run_totalStage`: The stages that make the page.
* `Listing.exists_of_matched_error`: How a match fails.
* `Listing.matches_of_searchable`, `matches_unsearched`: Where the match succeeds.
* `Listing.answer_compile`: The answer of a store.
* `Listing.answer_of_error`, `answer_of_shown_eq_none`: The answer where the match
  or the sort fails.
* `Listing.page_answer`, `exists_of_mem_page`: The page in it.
* `Listing.execute_eq`, `execute_of_storable`: The page of a listing.
* `Listing.cut_eq_of_length_le`: No list is long enough for clamped counts to
  matter.
-/

namespace DocQuery

namespace Listing

/-- The documents that match a listing. -/
def found (l : Listing) (docs : List Document) : List Document :=
  docs.filter l.meets

/-- The part of a list that a request asks for, where counts that are too large
    for a 64-bit integer are the largest one. -/
def cut {α : Type} (r : ListRequest) (xs : List α) : List α :=
  match r.limit with
  | some limit => (xs.drop (min r.skip Value.maxInt64)).take (min limit Value.maxInt64)
  | none => xs

/-- The part of a list that a request asks for. -/
def window {α : Type} (r : ListRequest) (xs : List α) : List α :=
  match r.limit with
  | some limit => (xs.drop r.skip).take limit
  | none => xs

/-- The documents that match a listing, in its order. -/
def ordered (l : Listing) (docs : List Document) : Option (List Document) :=
  (SortKeys.ofKeys l.request.sort).sort (l.found docs)

/-- The documents of a page before further stages, if they have an order. -/
def shown (l : Listing) (docs : List Document) : Option (List Document) :=
  (l.ordered docs).map fun sorted => cut l.request (sorted.map (Document.pick l.request.fields))

theorem length_found_le (l : Listing) (docs : List Document) :
    (l.found docs).length ≤ docs.length :=
  List.length_filter_le _ _

/-- The documents that match have an order if the keys are transitive on them,
    or if they are few. -/
theorem exists_ordered (l : Listing) (docs : List Document)
    (h : (SortKeys.ofKeys l.request.sort).TransitiveOn (l.found docs) ∨
      (l.found docs).length ≤ 20) : ∃ sorted, l.ordered docs = some sorted :=
  SortKeys.exists_sort _ _ h

theorem perm_of_ordered_eq_some {l : Listing} {docs sorted : List Document}
    (h : l.ordered docs = some sorted) : sorted.Perm (l.found docs) :=
  SortKeys.perm_sort _ h

/-- Documents that have an order are shown in it. -/
theorem shown_of_ordered_eq_some {l : Listing} {docs sorted : List Document}
    (h : l.ordered docs = some sorted) :
    l.shown docs = some (cut l.request (sorted.map (Document.pick l.request.fields))) := by
  rw [shown, h, Option.map_some]

/-- What is shown is cut out of the documents in order. -/
theorem shown_eq_some_iff {l : Listing} {docs shown : List Document} :
    l.shown docs = some shown ↔
      ∃ sorted, l.ordered docs = some sorted ∧
        cut l.request (sorted.map (Document.pick l.request.fields)) = shown :=
  Option.map_eq_some_iff

theorem shown_eq_none_iff {l : Listing} {docs : List Document} :
    l.shown docs = none ↔ l.ordered docs = none :=
  Option.map_eq_none_iff

/-- Clamped counts make no difference on a list of that length. -/
theorem cut_eq_of_length_le {α : Type} (r : ListRequest) (xs : List α)
    (h : xs.length ≤ Value.maxInt64) : cut r xs = window r xs := by
  unfold cut window
  rcases r.limit with _ | limit
  · rfl
  · -- A count beyond the largest integer is beyond the end of the list too.
    have hdrop : xs.drop (min r.skip Value.maxInt64) = xs.drop r.skip := by
      by_cases hskip : r.skip ≤ Value.maxInt64
      · rw [Nat.min_eq_left hskip]
      · rw [Nat.min_eq_right (by omega), List.drop_eq_nil_of_le h,
          List.drop_eq_nil_of_le (by omega)]
    have hlength : (xs.drop r.skip).length ≤ Value.maxInt64 := by
      rw [List.length_drop]
      omega
    simp only [hdrop]
    by_cases hlimit : limit ≤ Value.maxInt64
    · rw [Nat.min_eq_left hlimit]
    · rw [Nat.min_eq_right (by omega), List.take_of_length_le hlength,
        List.take_of_length_le (by omega)]

/-- To cut and to change each element can change places. -/
theorem cut_map {α β : Type} (r : ListRequest) (f : α → β) (xs : List α) :
    cut r (xs.map f) = (cut r xs).map f := by
  unfold cut
  rcases r.limit with _ | limit
  · rfl
  · rw [← List.map_drop, List.map_take]

theorem cut_sublist {α : Type} (r : ListRequest) (xs : List α) : (cut r xs).Sublist xs := by
  unfold cut
  split
  · exact (List.take_sublist _ _).trans (List.drop_sublist _ _)
  · exact List.Sublist.refl xs

variable (collection : String → List Document)

/-- A clamped count is not changed by making it an integer. -/
theorem toInt_ofNat_maxInt64 (n : Nat) :
    (Int64.ofNat (min n Value.maxInt64)).toInt = (min n Value.maxInt64 : Nat) := by
  apply Int64.toInt_ofNat_of_lt
  have h : Value.maxInt64 < 2 ^ 63 := by decide
  omega

/-- So it is read back as itself. -/
theorem count?_countValue (n : Nat) : (countValue n).count? = some (min n Value.maxInt64) := by
  unfold countValue Value.count?
  simp only [Value.integer?, toInt_ofNat_maxInt64]
  rw [if_pos (Int.natCast_nonneg _), Int.toNat_natCast]

/-- The number of matches that a count stands for. -/
theorem totalOf_countValue (n : Nat) :
    Page.totalOf (some (Stage.countValue n)) = min n Value.maxInt64 := by
  unfold Stage.countValue
  split
  · -- A number that is small enough is written as a 32-bit integer, and any other as a
    -- 64-bit one.
    rename_i h
    have hsmall : Value.maxInt32 < 2 ^ 31 := by decide
    have hlarge : Value.maxInt32 ≤ Value.maxInt64 := by decide
    have hvalue : (Int32.ofNat n).toInt = n := Int32.toInt_ofNat_of_lt (by omega)
    simp only [Page.totalOf, Value.integer?, hvalue, Option.getD_some, Int.toNat_natCast]
    omega
  · simp only [Page.totalOf, Value.integer?, toInt_ofNat_maxInt64, Option.getD_some,
      Int.toNat_natCast]

/-- The stage that sorts, with the one error it can have. -/
theorem run_sortStage (keys : List SortKey) (h : SortKey.Separate keys) (docs : List Document) :
    Stage.run collection (Stage.ofDocument (sortStage (SortKey.document keys))) docs =
      ((SortKeys.ofKeys keys).sort docs).elim (.error .disorder) .ok :=
  Stage.run_sort collection (SortKeys.ofDocument_document keys h) docs

/-- The stages for a page cut the list, or there are none. -/
theorem runAll_pageStages (r : ListRequest) (docs : List Document) :
    Stage.runAll collection ((pageStages r.skip r.limit).map Stage.ofDocument) docs =
      .ok (cut r docs) := by
  unfold pageStages cut
  rcases r.limit with _ | limit
  · rfl
  · -- The counts are read back from the documents of the two stages.
    have hskip : Stage.ofDocument [("$skip", countValue r.skip)] =
        .skip (min r.skip Value.maxInt64) := by
      have hcount := count?_countValue r.skip
      unfold countValue at hcount ⊢
      simp [Stage.ofDocument, Stage.ofEntry, Stage.ofCount, hcount]
    have hlimit : Stage.ofDocument [("$limit", countValue limit)] =
        .limit (min limit Value.maxInt64) := by
      have hcount := count?_countValue limit
      unfold countValue at hcount ⊢
      simp [Stage.ofDocument, Stage.ofEntry, Stage.ofCount, hcount]
    simp only [List.map_cons, List.map_nil, hskip, hlimit, Stage.runAll, Stage.run, bind,
      Except.bind]

theorem ofItems_documents (stages : List Document) :
    Stage.ofItems (stages.map .document) = some (stages.map Stage.ofDocument) := by
  induction stages with
  | nil => rfl
  | cons stage stages ih =>
      rw [List.map_cons, Stage.ofItems, ih]
      rfl

/-- The facet makes a document of the page and the number of matches. -/
theorem run_facetStage (data : List Document) (docs result : List Document)
    (h : Stage.runAll collection (data.map Stage.ofDocument) docs = .ok result) :
    Stage.run collection (Stage.ofDocument (facetStage data)) docs =
      .ok [[(dataName, .array (result.map .document)),
        (totalName, .array ((Stage.countDocs totalName docs).map .document))]] := by
  have hcount : Stage.ofDocument [("$count", .string totalName)] = .count totalName := by
    rfl
  -- Two branches are read: the stages of the page, and one that counts.
  have hstage : Stage.ofDocument (facetStage data) =
      .facet [(dataName, data.map Stage.ofDocument), (totalName, [.count totalName])] := by
    unfold facetStage stage
    rw [Stage.ofDocument, if_pos rfl]
    simp only [Stage.ofBranches, Stage.ofBranch, ofItems_documents, Stage.ofItems, Option.map_some,
      hcount]
  rw [hstage, Stage.run]
  simp only [Stage.runBranches, h, Stage.runAll, Stage.run, bind, Except.bind, pure, Except.pure,
    Except.map]

/-- The number of matches, read from a list that has it unless it is zero. -/
def totalExpression : Expression :=
  .firstPresent [.elementAt (.path ["total", "total"]) (.literal (.int32 0))] (.literal (.int32 0))

/-- The last stage, as a projection of two fields. -/
theorem ofDocument_totalStage :
    Stage.ofDocument totalStage =
      .project (.keep true [(["total"], some totalExpression), (["data"], none)]) := by
  rfl

/-- The number of matches is the first element of its list, or zero where the
    list is empty. -/
theorem evaluate_totalExpression (items : List Value) (docs : List Document) :
    totalExpression.evaluate [(dataName, .array items),
        (totalName, .array ((Stage.countDocs totalName docs).map .document))] =
      .ok (some (Stage.countValue docs.length)) := by
  rcases docs with _ | ⟨d, docs⟩
  · rfl
  · have hpresent : Expression.isAbsent (some (Stage.countValue (d :: docs).length)) = false := by
      unfold Stage.countValue
      split
      · rfl
      · rfl
    -- The path goes through the array of counts, which has one.
    have hat : Document.at? [(dataName, .array items),
        (totalName, .array ((Stage.countDocs totalName (d :: docs)).map .document))]
          ["total", "total"] = some (.array [Stage.countValue (d :: docs).length]) := by
      simp [Document.at?, Value.at?_document, Value.at?_array, Value.at?_nil, Document.get?,
        dataName, totalName, Stage.countDocs]
    have helement : Expression.elementOf [Stage.countValue (d :: docs).length]
        (some (.int32 0)) = .ok (some (Stage.countValue (d :: docs).length)) := by
      rfl
    simp only [totalExpression, Expression.evaluate, Expression.evaluateFirst, hat, helement,
      hpresent, bind, Except.bind, pure, Except.pure, Bool.false_eq_true, if_false]

/-- The last stage takes the number of matches out of its list. -/
theorem run_totalStage (items : List Value) (docs : List Document) :
    Stage.run collection (Stage.ofDocument totalStage)
        [[(dataName, .array items),
          (totalName, .array ((Stage.countDocs totalName docs).map .document))]] =
      .ok [[(totalName, Stage.countValue docs.length), (dataName, .array items)]] := by
  have happly : (Projection.keep true [(["total"], some totalExpression), (["data"], none)]).apply
      [(dataName, .array items),
        (totalName, .array ((Stage.countDocs totalName docs).map .document))] =
          .ok [(totalName, Stage.countValue docs.length), (dataName, .array items)] := by
    rw [Projection.apply, List.foldlM_cons, Projection.valueFor, evaluate_totalExpression]
    rfl
  rw [ofDocument_totalStage, Stage.run, List.mapM_cons, happly]
  rfl

/-- Whatever a match asks for, it fails by its filters only. -/
theorem exists_of_matched_error (filters : Document) (search : Option Document)
    (docs : List Document) (error : PipelineError)
    (h : Stage.runAll collection ((matchStage? filters search).toList.map Stage.ofDocument) docs =
      .error error) : ∃ e, error = .filter e := by
  unfold matchStage? at h
  -- Without a stage nothing can fail, and with one only its filters can.
  split at h
  · cases h
  · have hstage : ∀ fields, Stage.ofDocument (stage "$match" fields) =
        Stage.ofFilterDocument fields := fun _ => rfl
    rw [Option.toList_some, List.map_singleton, hstage, Stage.ofFilterDocument] at h
    split at h
    · cases h
    · rename_i e _
      cases h
      exact ⟨e, rfl⟩

variable (s : Store) (name : String) (l : Listing)

/-- The match of a listing succeeds on a collection. -/
def Matches : Prop :=
  Stage.runAll s.documents (l.matchStages.map Stage.ofDocument) (s.documents name) =
    .ok (l.found (s.documents name))

/-- The match succeeds for a term that can be searched for. -/
theorem matches_of_searchable (hfilters : Filter.Readable l.filters)
    (hfields : ∀ field ∈ l.searchFields, Filter.isOperator field = false)
    (hsearch : Searchable l.request.search l.searchFields) : l.Matches s name :=
  runAll_matchStage s.documents l.filters l.request.search l.searchFields hfilters hsearch hfields _

/-- Without a search term it does not matter what the fields to search in are. -/
theorem matches_unsearched (hfilters : Filter.Readable l.filters) (hterm : l.request.search = "") :
    l.Matches s name := by
  have hmatch := runAll_matchStage_unsearched s.documents l.filters l.searchFields hfilters
    (s.documents name)
  rw [← hterm] at hmatch
  exact hmatch

/-- A match that does not succeed fails by its filters. -/
theorem matches_or_error :
    l.Matches s name ∨
      ∃ error : FilterError, Stage.runAll s.documents (l.matchStages.map Stage.ofDocument)
        (s.documents name) = .error (.filter error) := by
  rcases hmatch : Stage.runAll s.documents (l.matchStages.map Stage.ofDocument)
      (s.documents name) with error | matched
  · rcases exists_of_matched_error s.documents _ _ _ error hmatch with ⟨e, rfl⟩
    exact .inr ⟨e, rfl⟩
  · -- A match that succeeds has kept what matches.
    refine .inl ?_
    rw [Matches, hmatch]
    exact congrArg _ (eq_of_runAll_matchStage s.documents _ _ _ _ matched hmatch)

variable {s name l}

/-- Where the match fails, so does the pipeline. -/
theorem answer_of_error (hbefore : l.stagesBefore = []) {error : FilterError}
    (hmatch : Stage.runAll s.documents (l.matchStages.map Stage.ofDocument) (s.documents name) =
      .error (.filter error)) :
    s.answer name l.compile = .error (.failed (PipelineError.filter error).message) := by
  unfold Store.answer Store.aggregate compile
  rw [hbefore, List.nil_append, List.map_append, Stage.runAll_append, hmatch]
  rfl

/-- It fails where the search term is too large. -/
theorem answer_of_not_searchable (hbefore : l.stagesBefore = [])
    (hfilters : Filter.Readable l.filters)
    (hfields : ∀ field ∈ l.searchFields, Filter.isOperator field = false)
    (hsearch : ¬Searchable l.request.search l.searchFields) :
    s.answer name l.compile =
      .error (.failed (PipelineError.filter .largePattern).message) :=
  answer_of_error hbefore (runAll_matchStage_of_not_searchable s.documents l.filters
    l.request.search l.searchFields hfilters hsearch hfields _)

variable (hbefore : l.stagesBefore = []) (hsort : SortKey.Separate l.request.sort)
  (hmatch : l.Matches s name)

include hbefore hsort hmatch

/-- Where the documents that match have no order, the program stops. -/
theorem answer_of_shown_eq_none (hshown : l.shown (s.documents name) = none) :
    s.answer name l.compile = .error .stopped := by
  have hsorted : (SortKeys.ofKeys l.request.sort).sort (l.found (s.documents name)) = none :=
    shown_eq_none_iff.mp hshown
  unfold Store.answer Store.aggregate compile
  rw [hbefore, List.nil_append, List.map_append, Stage.runAll_append, hmatch]
  simp only [List.map_cons, List.map_nil, Stage.runAll, bind, Except.bind, Except.mapError,
    run_sortStage _ _ hsort, hsorted, Option.elim_none, PipelineError.failure]

/-- The answer of a store to the pipeline of a listing, where the further stages
    make `result` of the documents of the page. -/
theorem answer_compile {shown : List Document} (hshown : l.shown (s.documents name) = some shown)
    {result : List Document}
    (hafter : Stage.runAll s.documents (l.stagesAfter.map Stage.ofDocument) shown = .ok result) :
    s.answer name l.compile =
      .ok [[(totalName, Stage.countValue (l.found (s.documents name)).length),
        (dataName, .array (result.map .document))]] := by
  rcases shown_eq_some_iff.mp hshown with ⟨sorted, hsorted, rfl⟩
  -- The stages for the page come first, and the further ones after them.
  have hdata : Stage.runAll s.documents (l.dataStages.map Stage.ofDocument)
      (sorted.map (Document.pick l.request.fields)) = .ok result := by
    rw [dataStages, List.map_append, Stage.runAll_append, runAll_pageStages]
    exact hafter
  -- The page and the count are made of the same documents, with fields picked.
  have hfacet := run_facetStage s.documents l.dataStages _ result hdata
  have hlength : (sorted.map (Document.pick l.request.fields)).length =
      (l.found (s.documents name)).length := by
    rw [List.length_map]
    exact (perm_of_ordered_eq_some hsorted).length_eq
  rw [ordered] at hsorted
  unfold Store.answer Store.aggregate compile
  rw [hbefore, List.nil_append, List.map_append, Stage.runAll_append, hmatch]
  simp only [List.map_cons, List.map_nil, Stage.runAll, bind, Except.bind, Except.mapError,
    run_sortStage _ _ hsort, hsorted, Option.elim_some, Stage.run_projectStage, hfacet,
    run_totalStage, hlength]

omit hbefore hsort hmatch

/-- The page in an answer. Its documents have to decode. -/
theorem page_answer (n : Nat) (result : List Document) :
    page (.ok [[(totalName, Stage.countValue n), (dataName, .array (result.map .document))]]) =
      match result.mapM Document.decode? with
      | some data => .ok ⟨data, min n Value.maxInt64⟩
      | none => .error .decode := by
  have hitems : (result.map Value.document).mapM Page.decodeItem? =
      result.mapM Document.decode? := by
    rw [List.mapM_map]
    rfl
  have hdata : Document.get? [(totalName, Stage.countValue n),
      (dataName, .array (result.map .document))] dataName =
        some (.array (result.map .document)) := by
    rfl
  have htotal : Document.get? [(totalName, Stage.countValue n),
      (dataName, .array (result.map .document))] totalName = some (Stage.countValue n) := by
    rfl
  unfold page Page.ofAnswer? Page.ofDocument?
  simp only [hdata, htotal, hitems, totalOf_countValue]
  -- One document that does not decode is enough for there to be no page.
  rcases result.mapM Document.decode? with _ | data
  · rfl
  · rfl

/-- The documents of a page have been decoded from those in the answer. -/
theorem exists_of_mem_page (n : Nat) (result : List Document) (found : Page)
    (h : page (.ok [[(totalName, Stage.countValue n), (dataName, .array (result.map .document))]]) =
      .ok found)
    (d : Document) (hd : d ∈ found.data) : ∃ e ∈ result, Document.decode? e = some d := by
  rw [page_answer] at h
  rcases hdecode : result.mapM Document.decode? with _ | data
  · rw [hdecode] at h
    cases h
  · rw [hdecode] at h
    cases h
    exact exists_of_mem_mapM_some _ _ data hdecode d hd

include hbefore hsort hmatch

/-- The page of a listing: the documents of the page, which have to decode, and
    the number of all that match. -/
theorem execute_eq {shown : List Document} (hshown : l.shown (s.documents name) = some shown)
    {result : List Document}
    (hafter : Stage.runAll s.documents (l.stagesAfter.map Stage.ofDocument) shown = .ok result) :
    l.execute (s.answer name) =
      match result.mapM Document.decode? with
      | some data => .ok ⟨data, min (l.found (s.documents name)).length Value.maxInt64⟩
      | none => .error .decode := by
  rw [execute, answer_compile hbefore hsort hmatch hshown hafter, page_answer]

/-- Without an order there is no page. -/
theorem execute_of_shown_eq_none (hshown : l.shown (s.documents name) = none) :
    l.execute (s.answer name) = .error .stopped := by
  rw [execute, answer_of_shown_eq_none hbefore hsort hmatch hshown]
  rfl

/-- What a listing without further stages gives, whether there is an order or
    not. -/
theorem execute_eq_elim (hafter : l.stagesAfter = []) :
    l.execute (s.answer name) =
      (l.shown (s.documents name)).elim (.error .stopped) fun shown =>
        match shown.mapM Document.decode? with
        | some data => .ok ⟨data, min (l.found (s.documents name)).length Value.maxInt64⟩
        | none => .error .decode := by
  -- By whether the documents that match have an order.
  rcases hshown : l.shown (s.documents name) with _ | shown
  · exact execute_of_shown_eq_none hbefore hsort hmatch hshown
  · exact execute_eq hbefore hsort hmatch hshown (by rw [hafter]; rfl)

/-- Where every document of the page decodes to itself, there is a page. -/
theorem execute_of_storable {shown : List Document}
    (hshown : l.shown (s.documents name) = some shown) {result : List Document}
    (hafter : Stage.runAll s.documents (l.stagesAfter.map Stage.ofDocument) shown = .ok result)
    (hstorable : ∀ d ∈ result, d.Storable) :
    l.execute (s.answer name) =
      .ok ⟨result, min (l.found (s.documents name)).length Value.maxInt64⟩ := by
  rw [execute_eq hbefore hsort hmatch hshown hafter,
    Document.mapM_decode?_of_storable result hstorable]

omit hbefore hsort hmatch

/-- The documents of a page are those of the collection with fields picked. -/
theorem mem_of_mem_shown {docs shown : List Document} (h : l.shown docs = some shown)
    {d : Document} (hd : d ∈ shown) : ∃ e ∈ docs, e.pick l.request.fields = d := by
  rcases shown_eq_some_iff.mp h with ⟨sorted, hsorted, rfl⟩
  rcases List.mem_map.mp ((cut_sublist _ _).mem hd) with ⟨e, he, rfl⟩
  exact ⟨e, List.mem_of_mem_filter ((perm_of_ordered_eq_some hsorted).mem_iff.mp he), rfl⟩

end Listing

end DocQuery
