import DocQuery.Listing.Basic
import DocQuery.Proofs.Filter.Entries
import DocQuery.Proofs.Pattern.Occurrence
import DocQuery.Proofs.Pattern.Size
import Mathlib.Data.List.Forall2

/-!
# What a Listing Matches

The match of a listing: its filters, and its search term in one of the fields
to search in. The term is taken as it is, so no character of it can spoil the
condition for it, and only documents that the filters accept are found. It finds
a document by a text in one of the fields in which the term occurs as a run of
characters, whatever their case.

The condition for a term is a pattern, and the automaton for a pattern must not
be too large. `Listing.Searchable` says that it is not, or that there is nothing
to search for or nowhere to search. Then the match keeps what matches
(`runAll_matchStage`), and otherwise it fails with the one error there is for
that (`runAll_matchStage_of_not_searchable`).

The condition for a search is made of the term with every special character
quoted, once for each field. That it means what it should is a statement about
three layers: quoting and reading patterns (`Pattern.Quote`), patterns that are
rows of characters (`Pattern.Occurrence`), and the way a pattern is applied to
what is at a path. Here the layers meet.

A match is also the place where the size of a pattern is noticed. Reading the
conditions stops at the first that cannot be read, and the filters of the
request come before the search, so the error is that of the pattern if the
filters can be read.

## Main definitions

* `Document.HasText`: Does a path lead to a text, or to an array with it?
* `Listing.finds`: Does a term occur in a field of a document?
* `Listing.meetsSearch`: Does a document satisfy the condition for a search?
* `Listing.meets`: Does a document match a listing?
* `Listing.Searchable`: Is the term small enough to search for?
* `Listing.clauses`: What a listing has to match.

## Theorems

* `Listing.read_searchCondition`: What becomes of the condition for a field.
* `Listing.accepts_searchClause`, `meetsSearch_eq`: The condition for a search
  term.
* `Listing.finds_iff`: The texts by which a term finds a document.
* `Listing.holds_searchClause`: A search is for the characters of its term.
* `Listing.runAll_matchStage`, `runAll_matchStage_unsearched`: The stage that
  matches keeps what matches.
* `Listing.eq_of_runAll_matchStage`: So it does whenever it does not fail.
* `Listing.runAll_matchStage_of_not_searchable`: It fails for a term that is too
  large.
-/

namespace DocQuery

/-- Does a path lead to a text in a document, or to an array with it? -/
def Document.HasText (d : Document) (path : Path) (text : String) : Prop :=
  d.at? path = some (.string text) ∨
    ∃ items, d.at? path = some (.array items) ∧ Value.string text ∈ items

namespace Filter

/-- The values that a pattern matches are the texts in which it occurs. -/
theorem textMatches_eq_true_iff (pattern : Pattern) (v : Value) :
    textMatches pattern v = true ↔
      ∃ text, v = .string text ∧ pattern.occursIn text.toList = true := by
  unfold textMatches
  cases v with
  | string text =>
      simp only [Value.string.injEq, exists_eq_left']
  | _ => simp only [Bool.false_eq_true, reduceCtorEq, false_and, exists_false]

/-- A pattern matches at a path if it occurs in a text there. -/
theorem passes_textMatches_iff (pattern : Pattern) (d : Document) (path : Path) :
    passes (textMatches pattern) (d.at? path) = true ↔
      ∃ text, d.HasText path text ∧ pattern.occursIn text.toList = true := by
  unfold Document.HasText
  rcases hfound : d.at? path with _ | v
  · simp only [passes, Bool.false_eq_true, reduceCtorEq, false_and, exists_false, or_self]
  · cases v with
    | array items =>
        simp only [passes, List.any_eq_true, textMatches_eq_true_iff]
        constructor
        · rintro ⟨v, hv, text, rfl, hpattern⟩
          exact ⟨text, Or.inr ⟨items, rfl, hv⟩, hpattern⟩
        · rintro ⟨text, htext | ⟨_, hitems, htext⟩, hpattern⟩
          · cases htext
          · cases hitems
            exact ⟨_, htext, text, rfl, hpattern⟩
    | _ =>
        simp only [passes, textMatches_eq_true_iff, Option.some.injEq, reduceCtorEq, false_and,
          exists_false, or_false]

end Filter

namespace Listing

/-- Does a term occur in a field of a document, whatever its case? -/
def finds (term : String) (d : Document) (field : String) : Bool :=
  Filter.passes (Filter.textMatches (Pattern.ofText term.toList)) (d.at? (Path.ofString field))

/-- Does a document satisfy the condition for a search, if there is one? -/
def meetsSearch (term : String) (fields : List String) (d : Document) : Bool :=
  (searchClause? term fields).toList.all fun clause => Filter.accepts clause d

/-- Does a document match a listing? -/
def meets (l : Listing) (d : Document) : Bool :=
  Filter.accepts l.filters d && meetsSearch l.request.search l.searchFields d

/-- A search can be made: the term fits, unless there is nothing to search for or
    nowhere to search. -/
def Searchable (term : String) (fields : List String) : Prop :=
  term ≠ "" → fields ≠ [] → Pattern.Fits term.toList

instance (term : String) (fields : List String) : Decidable (Searchable term fields) :=
  inferInstanceAs (Decidable (_ → _ → _))

/-- The condition that a term occurs in a field is a pattern, unless the term is
    too large. -/
theorem readField_searchCondition (term field : String) :
    Filter.readField field (.document
        [("$regex", .string (String.ofList (Pattern.quote term.toList))),
         ("$options", .string "i")]) =
      if Pattern.Fits term.toList then
        .ok (.matching (Path.ofString field) (Pattern.ofText term.toList))
      else .error .largePattern := by
  have hflags : Filter.optionFlags "i" = .ok ['(', '?', 'i', ')'] := by rfl
  have hpattern : Filter.ofPattern (Path.ofString field)
      (String.ofList (Pattern.quote term.toList)) "i" =
        if Pattern.Fits term.toList then
          .ok (.matching (Path.ofString field) (Pattern.ofText term.toList))
        else .error .largePattern := by
    unfold Filter.ofPattern
    rw [hflags]
    simp only [String.toList_ofList, bind, Except.bind, Pattern.read_quote_eq]
    by_cases hfits : Pattern.Fits term.toList
    · rw [if_pos hfits, if_pos hfits]
    · rw [if_neg hfits, if_neg hfits]
  have hparts : ([("$regex", .string (String.ofList (Pattern.quote term.toList))),
      ("$options", .string "i")] : Document).foldlM
        (fun parts p => Filter.readPatternPart parts p.1 p.2) {} =
          .ok { text := some (String.ofList (Pattern.quote term.toList)),
                options := some "i" } := by
    rfl
  have hmarked : Filter.isConditions
      [("$regex", .string (String.ofList (Pattern.quote term.toList))),
       ("$options", .string "i")] = true := by rfl
  rw [Filter.readField, if_pos hmarked, Filter.readConditions,
    if_pos (by simp [Document.contains, Document.get?]), hparts]
  simp only [bind, Except.bind, Option.getD_some, hpattern]

/-- What becomes of the condition that a term occurs in a field. -/
theorem read_searchCondition (term field : String) (hfield : Filter.isOperator field = false) :
    Filter.read (searchCondition term field) =
      if Pattern.Fits term.toList then
        .ok (.matching (Path.ofString field) (Pattern.ofText term.toList))
      else .error .largePattern := by
  rw [searchCondition, Filter.read_singleton, Filter.readEntry_of_not_isOperator field _ hfield,
    readField_searchCondition]

/-- The condition that a term that fits occurs in a field can be read. -/
theorem accepts_searchCondition (term field : String) (hfits : Pattern.Fits term.toList)
    (hfield : Filter.isOperator field = false) :
    Filter.Readable (searchCondition term field) ∧
      ∀ d, Filter.accepts (searchCondition term field) d = finds term d field := by
  have hread := read_searchCondition term field hfield
  rw [if_pos hfits] at hread
  exact ⟨⟨_, hread⟩, fun d => Filter.accepts_of_read _ _ hread d⟩

/-- There is a search if there is a term and a field. -/
theorem not_isEmpty_iff (term : String) (fields : List String) :
    ¬(term.isEmpty || fields.isEmpty) = true ↔ term ≠ "" ∧ fields ≠ [] := by
  rw [Bool.or_eq_true, String.isEmpty_iff, List.isEmpty_iff, not_or]

/-- The condition for a search that can be made can be read. -/
theorem accepts_searchClause (term : String) (fields : List String)
    (hsearch : Searchable term fields)
    (hfields : ∀ field ∈ fields, Filter.isOperator field = false) (clause : Document)
    (h : searchClause? term fields = some clause) :
    Filter.Readable clause ∧ ∀ d, Filter.accepts clause d = fields.any (finds term d) := by
  unfold searchClause? at h
  by_cases hnone : (term.isEmpty || fields.isEmpty) = true
  · rw [if_pos hnone] at h
    cases h
  rw [if_neg hnone, Option.some.injEq] at h
  have hsome := (not_isEmpty_iff term fields).mp hnone
  have hfits := hsearch hsome.1 hsome.2
  have hread : ∀ clause ∈ fields.map (searchCondition term), ∃ f, Filter.read clause = .ok f := by
    intro clause hclause
    rcases List.mem_map.mp hclause with ⟨field, hfield, rfl⟩
    exact (accepts_searchCondition term field hfits (hfields field hfield)).1
  rcases (exists_mapM_ok_iff Filter.read _).mpr hread with ⟨fs, hfs⟩
  -- The conditions for the fields are the parts of a disjunction.
  have hparts : Filter.readParts
      (.array (fields.map fun field => .document (searchCondition term field))) = .ok fs := by
    have hitems := Filter.readItems_documents (fields.map (searchCondition term))
    rw [hfs, List.map_map] at hitems
    rcases fields with _ | ⟨field, fields⟩
    · simp at hnone
    · exact hitems
  have hclause : Filter.read clause = .ok (.any fs) := by
    rw [← h, Filter.read, Filter.readEntries, if_neg (by decide), if_pos rfl, hparts]
    rfl
  refine ⟨⟨_, hclause⟩, fun d => ?_⟩
  rw [Filter.accepts_of_read _ _ hclause, Filter.holds, Filter.holdsAny_eq]
  rw [mapM_eq_ok_iff, List.forall₂_map_left_iff] at hfs
  -- The conditions that have been read belong to the fields one by one.
  clear h hread hparts hclause hnone hsome hsearch
  induction hfs with
  | nil => rfl
  | cons hfield _ ih =>
      rw [List.forall_mem_cons] at hfields
      rw [List.any_cons, List.any_cons, ih hfields.2, ← Filter.accepts_of_read _ _ hfield,
        (accepts_searchCondition term _ hfits hfields.1).2]

/-- A document meets a search if the term occurs in one of the fields. -/
theorem meetsSearch_eq (term : String) (fields : List String) (hsearch : Searchable term fields)
    (hfields : ∀ field ∈ fields, Filter.isOperator field = false) (d : Document) :
    meetsSearch term fields d =
      (term.isEmpty || fields.isEmpty || fields.any (finds term d)) := by
  unfold meetsSearch
  rcases h : searchClause? term fields with _ | clause
  · unfold searchClause? at h
    split at h
    · rename_i hnone
      rw [hnone]
      rfl
    · cases h
  · -- There is a clause, so there is a term and a field.
    have haccepts := (accepts_searchClause term fields hsearch hfields clause h).2 d
    unfold searchClause? at h
    split at h
    · cases h
    · rename_i hsome
      rw [Bool.not_eq_true] at hsome
      rw [hsome, Option.toList_some, List.all_cons, haccepts, List.all_nil, Bool.and_true]
      rfl

/-- A term finds a document by a text in a field in which it occurs. -/
theorem finds_iff (term : String) (d : Document) (field : String) :
    finds term d field = true ↔
      ∃ text, d.HasText (Path.ofString field) text ∧
        Unicode.Occurs term.toList text.toList := by
  rw [finds, Filter.passes_textMatches_iff]
  simp only [Pattern.occursIn_ofText]

/-- The condition for a search can be read, whatever characters its term has,
    and holds for the documents that have a text in one of the fields in which
    the term occurs. No character of the term means anything but itself. What is
    asked of the engine for patterns is that it takes a text of this size. -/
theorem holds_searchClause (term : String) (fields : List String) (hterm : term ≠ "")
    (hnonempty : fields ≠ []) (hfields : ∀ field ∈ fields, Filter.isOperator field = false)
    (hfits : Pattern.Fits term.toList) :
    ∃ clause f, searchClause? term fields = some clause ∧ Filter.read clause = .ok f ∧
      ∀ d : Document, f.holds d = true ↔
        ∃ field ∈ fields, ∃ text, d.HasText (Path.ofString field) text ∧
          Unicode.Occurs term.toList text.toList := by
  have hneither := (not_isEmpty_iff term fields).mpr ⟨hterm, hnonempty⟩
  have hclause : searchClause? term fields =
      some [("$or", .array (fields.map fun field => .document (searchCondition term field)))] :=
    if_neg hneither
  rcases accepts_searchClause term fields (fun _ _ => hfits) hfields _ hclause with
    ⟨⟨f, hread⟩, haccepts⟩
  refine ⟨_, f, hclause, hread, fun d => ?_⟩
  rw [← Filter.accepts_of_read _ _ hread, haccepts, List.any_eq_true]
  simp only [finds_iff]

/-- A point in the term is a point, and its letters are of either case. -/
theorem holds_searchClause_sample :
    ∃ clause f, searchClause? "a.K" ["name", "tags"] = some clause ∧
      Filter.read clause = .ok f ∧
      f.holds [("name", .string "aXk"), ("tags", .array [.int32 1, .string "(A.k)"])] = true ∧
      f.holds [("name", .string "aXk"), ("tags", .string "ak")] = false := by
  rcases holds_searchClause "a.K" ["name", "tags"] (by decide) (by decide) (by decide)
      (Pattern.fits_of_length_le (by decide) (by decide) (by decide)) with
    ⟨clause, f, hclause, hread, hholds⟩
  refine ⟨clause, f, hclause, hread, ?_, ?_⟩
  · rw [hholds]
    exact ⟨"tags", by decide, "(A.k)",
      Or.inr ⟨_, rfl, List.mem_cons_of_mem _ (List.mem_cons_self ..)⟩, by decide⟩
  · rw [← Bool.not_eq_true, hholds]
    -- Neither text has the run, and there is no array to look into.
    rintro ⟨field, hfield, text, htext | ⟨items, hitems, -⟩, hoccurs⟩
    all_goals simp only [List.mem_cons, List.not_mem_nil, or_false] at hfield
    · rcases hfield with rfl | rfl
      all_goals
        cases htext
        exact absurd hoccurs (by decide)
    · rcases hfield with rfl | rfl
      all_goals cases hitems

/-- What a listing has to match. A filter without conditions accepts everything,
    so it is left out. -/
def clauses (filters : Document) (search : Option Document) : List Document :=
  (if filters.isEmpty then [] else [filters]) ++ search.toList

/-- There is a stage that matches if there is anything to match. -/
theorem matchStage?_eq (filters : Document) (search : Option Document) :
    matchStage? filters search =
      if clauses filters search = [] then none
      else some (stage "$match" [("$and", .array ((clauses filters search).map .document))]) := by
  unfold matchStage? clauses
  split
  · rename_i h
    rw [if_pos h]
  · rename_i h
    rw [if_neg h]

/-- What has to be matched is what the filters accept and the search finds. -/
theorem all_clauses (filters : Document) (term : String) (fields : List String) (d : Document) :
    ((clauses filters (searchClause? term fields)).all fun clause => Filter.accepts clause d) =
      (Filter.accepts filters d && meetsSearch term fields d) := by
  have hempty : filters.isEmpty = true → Filter.accepts filters d = true := by
    intro h
    rw [List.isEmpty_iff.mp h]
    rfl
  rw [clauses, List.all_append, ← meetsSearch]
  split
  · rename_i h
    rw [hempty h, List.all_nil]
  · rw [List.all_cons, List.all_nil, Bool.and_true]

/-- The stage that matches, if there is one, keeps what the filters accept and
    the search finds, as long as they can be read. -/
theorem runAll_matchStage_of_readable (collection : String → List Document) (filters : Document)
    (term : String) (fields : List String)
    (h : ∀ clause ∈ clauses filters (searchClause? term fields), Filter.Readable clause)
    (docs : List Document) :
    Stage.runAll collection
        ((matchStage? filters (searchClause? term fields)).toList.map Stage.ofDocument) docs =
      .ok (docs.filter fun d => Filter.accepts filters d && meetsSearch term fields d) := by
  have hfilter : (fun d => Filter.accepts filters d && meetsSearch term fields d) = fun d =>
      (clauses filters (searchClause? term fields)).all fun clause => Filter.accepts clause d :=
    funext fun d => (all_clauses filters term fields d).symm
  rw [hfilter, matchStage?_eq]
  -- Without anything to match there is no stage, and everything is kept.
  by_cases hnil : clauses filters (searchClause? term fields) = []
  · rw [if_pos hnil, hnil]
    simp only [Option.toList_none, List.map_nil, Stage.runAll, List.all_nil, List.filter_true]
  · rw [if_neg hnil]
    rcases Filter.ofDocument_match _ hnil h with ⟨f, hf, hholds⟩
    simp only [Option.toList_some, List.map_cons, List.map_nil, Stage.runAll, stage, hf, Stage.run,
      bind, Except.bind]
    rw [List.filter_congr fun d _ => hholds d]

/-- A match that does not fail keeps what the filters accept and the search
    finds. -/
theorem eq_of_runAll_matchStage (collection : String → List Document) (filters : Document)
    (term : String) (fields : List String) (docs matched : List Document)
    (h : Stage.runAll collection
      ((matchStage? filters (searchClause? term fields)).toList.map Stage.ofDocument) docs =
        .ok matched) :
    matched = docs.filter fun d => Filter.accepts filters d && meetsSearch term fields d := by
  have hreadable : ∀ clause ∈ clauses filters (searchClause? term fields),
      Filter.Readable clause := by
    by_cases hnil : clauses filters (searchClause? term fields) = []
    · rw [hnil]
      nofun
    · rw [matchStage?_eq, if_neg hnil] at h
      simp only [Option.toList_some, List.map_cons, List.map_nil, Stage.runAll] at h
      rcases hrun : Stage.run collection (Stage.ofDocument (stage "$match" [("$and",
        .array ((clauses filters (searchClause? term fields)).map .document))])) docs with
        e | result
      · rw [hrun] at h
        cases h
      · exact Filter.readable_of_run_match collection _ hnil docs result hrun
  rw [runAll_matchStage_of_readable collection filters term fields hreadable] at h
  exact (Except.ok.inj h).symm

/-- The stage that matches, if there is one, keeps what the filters accept and
    the search finds. -/
theorem runAll_matchStage (collection : String → List Document) (filters : Document)
    (term : String) (fields : List String) (hfilters : Filter.Readable filters)
    (hsearch : Searchable term fields)
    (hfields : ∀ field ∈ fields, Filter.isOperator field = false) (docs : List Document) :
    Stage.runAll collection
        ((matchStage? filters (searchClause? term fields)).toList.map Stage.ofDocument) docs =
      .ok (docs.filter fun d => Filter.accepts filters d && meetsSearch term fields d) := by
  apply runAll_matchStage_of_readable
  intro clause hclause
  rcases List.mem_append.mp hclause with h | h
  · split at h
    · cases h
    · rw [List.mem_singleton.mp h]
      exact hfilters
  · exact (accepts_searchClause term fields hsearch hfields clause (Option.mem_toList.mp h)).1

/-- The stage that matches fails if the term is too large to search for. -/
theorem runAll_matchStage_of_not_searchable (collection : String → List Document)
    (filters : Document) (term : String) (fields : List String)
    (hfilters : Filter.Readable filters) (hsearch : ¬Searchable term fields)
    (hfields : ∀ field ∈ fields, Filter.isOperator field = false) (docs : List Document) :
    Stage.runAll collection
        ((matchStage? filters (searchClause? term fields)).toList.map Stage.ofDocument) docs =
      .error (.filter .largePattern) := by
  simp only [Searchable, Classical.not_imp] at hsearch
  rcases hsearch with ⟨hterm, hnonempty, hlarge⟩
  have hclause : searchClause? term fields =
      some [("$or", .array (fields.map fun field => .document (searchCondition term field)))] :=
    if_neg ((not_isEmpty_iff term fields).mpr ⟨hterm, hnonempty⟩)
  -- The condition for the first field is refused already.
  have hread : Filter.read
      [("$or", .array (fields.map fun field => .document (searchCondition term field)))] =
        .error .largePattern := by
    rcases fields with _ | ⟨field, fields⟩
    · exact absurd rfl hnonempty
    · have hfirst := read_searchCondition term field (hfields field (List.mem_cons_self ..))
      rw [if_neg hlarge] at hfirst
      rw [Filter.read_singleton, Filter.readEntry, if_neg (show ¬"$or" = "$and" by decide),
        if_pos rfl, List.map_cons, Filter.readParts, Filter.readPart, ← Filter.read, hfirst]
      rfl
  -- The filters, if there are any, are read before the search.
  have hall : (clauses filters (searchClause? term fields)).mapM Filter.read =
      .error .largePattern := by
    rw [hclause, clauses, Option.toList_some]
    split
    · rw [List.nil_append, List.mapM_cons, hread]
      rfl
    · rcases hfilters with ⟨f, hf⟩
      rw [List.cons_append, List.nil_append, List.mapM_cons, hf, List.mapM_cons, hread]
      rfl
  have hne : clauses filters (searchClause? term fields) ≠ [] := by
    rw [hclause, clauses, Option.toList_some]
    exact List.append_ne_nil_of_right_ne_nil _ (List.cons_ne_nil _ _)
  rw [matchStage?_eq, if_neg hne, Option.toList_some, List.map_cons, List.map_nil, stage,
    Stage.runAll, Filter.ofDocument_match_eq, Stage.ofFilterDocument, Filter.read_match _ hne, hall]
  rfl

/-- Without a term there is nothing to search for, whatever the fields are. -/
theorem runAll_matchStage_unsearched (collection : String → List Document) (filters : Document)
    (fields : List String) (hfilters : Filter.Readable filters) (docs : List Document) :
    Stage.runAll collection
        ((matchStage? filters (searchClause? "" fields)).toList.map Stage.ofDocument) docs =
      .ok (docs.filter fun d => Filter.accepts filters d && meetsSearch "" fields d) :=
  runAll_matchStage collection filters "" [] hfilters nofun nofun docs

end Listing

end DocQuery
