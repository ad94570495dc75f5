import DocQuery.Pipeline.Stage
import DocQuery.Proofs.Outcome

/-!
# Entries of Filters

A written filter is its entries. It can be read if each entry can be read, and
a document satisfies it if it satisfies each entry. So an entry more can only
narrow what a filter accepts, and the order of the entries makes no difference.

Entries may be conditions on a path or the connectives that take other filters,
and reading an entry may fail in many ways. None of this matters here. An entry
is read by `readEntry`, alone, and a filter reads its entries one by one and
puts them together, so the first entry that cannot be read decides the error and
any of them that there is no filter.

Acceptance is a function of two documents that does not mention the filter that
has been read. A filter that cannot be read accepts nothing. This makes it
possible to speak of what a request filters by before it is known that its
filters can be read.

## Main definitions

* `Filter.readEntry`: The condition that an entry stands for.
* `Filter.Readable`: Can a written filter be read?
* `Filter.accepts`: Does a document satisfy a written filter?

## Theorems

* `Filter.read_singleton`: A filter of one entry is the entry.
* `Filter.readEntry_of_not_isOperator`, `exists_error_of_isOperator`: What the
  name of an entry decides.
* `Filter.readable_iff`: A filter can be read if its entries can.
* `Filter.readable_perm`, `accepts_perm`: The order of the entries.
* `Filter.holds_of_read`: A filter holds if its entries hold.
* `Filter.accepts_of_subset`: More entries accept less.
* `Filter.read_match`, `ofDocument_match`: The stage that matches some filters.
* `Filter.readable_of_run_match`: What can be read if it does not fail.
-/

namespace DocQuery

namespace Filter

/-- The condition that an entry of a filter stands for. -/
def readEntry (p : String × Value) : Except FilterError Filter :=
  if p.1 = "$and" then (readParts p.2).map all
  else if p.1 = "$or" then (readParts p.2).map any
  else if isOperator p.1 then .error (.unknownOperator p.1)
  else readField p.1 p.2

/-- Can a written filter be read? -/
def Readable (filter : Document) : Prop :=
  ∃ f, read filter = .ok f

/-- Does a document satisfy an entry? -/
def entryHolds (d : Document) (p : String × Value) : Bool :=
  match readEntry p with
  | .ok f => f.holds d
  | .error _ => false

/-- Does a document satisfy a written filter? None satisfies one that cannot be
    read. -/
def accepts (filter d : Document) : Bool :=
  match read filter with
  | .ok f => f.holds d
  | .error _ => false

theorem readEntries_eq (filter : Document) : readEntries filter = filter.mapM readEntry := by
  induction filter with
  | nil => rfl
  | cons p filter ih =>
      rcases p with ⟨name, v⟩
      rw [List.mapM_cons, ← ih, readEntries, readEntry]
      split
      · rfl
      split
      · rfl
      split
      · rfl
      · rfl

/-- A filter of one entry is the entry. -/
theorem read_singleton (p : String × Value) : read [p] = readEntry p := by
  rw [read, readEntries_eq, List.mapM_cons, List.mapM_nil]
  rcases readEntry p with e | f
  · rfl
  · rfl

/-- A name that is no operator stands for a path. -/
theorem readEntry_of_not_isOperator (name : String) (v : Value) (h : isOperator name = false) :
    readEntry (name, v) = readField name v := by
  unfold readEntry
  rw [if_neg, if_neg, if_neg]
  · rw [h]
    exact Bool.false_ne_true
  · rintro rfl
    exact Bool.noConfusion h
  · rintro rfl
    exact Bool.noConfusion h

/-- No operator is followed by anything but an array. -/
theorem exists_error_of_isOperator (name : String) (v : Value) (h : isOperator name = true)
    (hv : ∀ items, v ≠ .array items) : ∃ e, readEntry (name, v) = .error e := by
  -- The connectives take an array of parts, and no other operator is known.
  have hparts : readParts v = .error .partsNotArray := by
    cases v with
    | array items => exact absurd rfl (hv items)
    | _ => rfl
  unfold readEntry
  simp only [hparts, h, if_true]
  split
  · exact ⟨.partsNotArray, rfl⟩
  split
  · exact ⟨.partsNotArray, rfl⟩
  · exact ⟨.unknownOperator name, rfl⟩

/-- So a filter that asks an operator for a value cannot be read. -/
theorem not_readable_of_isOperator (name : String) (v : Value) (h : isOperator name = true)
    (hv : ∀ items, v ≠ .array items) : ¬Readable [(name, v)] := by
  rintro ⟨f, hf⟩
  rcases exists_error_of_isOperator name v h hv with ⟨e, he⟩
  rw [read_singleton, he] at hf
  cases hf

/-- A filter can be read if each of its entries can. -/
theorem readable_iff (filter : Document) :
    Readable filter ↔ ∀ p ∈ filter, ∃ f, readEntry p = .ok f := by
  rw [← exists_mapM_ok_iff, ← readEntries_eq]
  unfold Readable read
  rcases readEntries filter with e | fs
  · constructor
    · rintro ⟨f, h⟩
      cases h
    · rintro ⟨fs, h⟩
      cases h
  · exact ⟨fun _ => ⟨fs, rfl⟩, fun _ => ⟨conjunction fs, rfl⟩⟩

/-- A filter that has been read holds if its entries hold. -/
theorem holds_of_read (filter : Document) (f : Filter) (h : read filter = .ok f)
    (d : Document) : f.holds d = filter.all (entryHolds d) := by
  unfold read at h
  rw [readEntries_eq] at h
  rcases hfs : filter.mapM readEntry with e | fs
  · rw [hfs] at h
    cases h
  rw [hfs] at h
  have hf : conjunction fs = f := Except.ok.inj h
  rw [← hf, holds_conjunction]
  rw [mapM_eq_ok_iff] at hfs
  -- The conditions that have been read belong to the entries, one by one.
  clear h hf
  induction hfs with
  | nil => rfl
  | cons hp _ ih => rw [List.all_cons, List.all_cons, ih, entryHolds, hp]

/-- To be accepted is to satisfy the filter that has been read. -/
theorem accepts_of_read (filter : Document) (f : Filter) (h : read filter = .ok f)
    (d : Document) : accepts filter d = f.holds d := by
  rw [accepts, h]

/-- To be accepted is to satisfy every entry, if all can be read. -/
theorem accepts_eq_all (filter : Document) (h : Readable filter) (d : Document) :
    accepts filter d = filter.all (entryHolds d) := by
  rcases h with ⟨f, hf⟩
  rw [accepts_of_read filter f hf, holds_of_read filter f hf]

/-- What satisfies a filter satisfies every filter made of entries of it. -/
theorem accepts_of_subset (fewer more : Document) (hfewer : Readable fewer)
    (hmore : Readable more) (hsub : ∀ p ∈ fewer, p ∈ more) (d : Document)
    (h : accepts more d = true) : accepts fewer d = true := by
  -- Both are read entry by entry, so a document is asked the same about common entries.
  rw [accepts_eq_all more hmore, List.all_eq_true] at h
  rw [accepts_eq_all fewer hfewer, List.all_eq_true]
  intro p hp
  exact h p (hsub p hp)

/-- Whether a filter can be read does not depend on the order of its entries. -/
theorem readable_perm (filter other : Document) (hperm : filter.Perm other) :
    Readable filter ↔ Readable other := by
  rw [readable_iff, readable_iff]
  exact forall_congr' fun p => by rw [hperm.mem_iff]

/-- A filter that cannot be read accepts nothing. -/
theorem accepts_of_not_readable (filter : Document) (h : ¬Readable filter) (d : Document) :
    accepts filter d = false := by
  rcases hf : read filter with e | f
  · rw [accepts, hf]
  · exact absurd ⟨f, hf⟩ h

/-- Acceptance does not depend on the order of the entries, whether they can be
    read or not. -/
theorem accepts_perm (filter other : Document) (hperm : filter.Perm other)
    (d : Document) : accepts filter d = accepts other d := by
  have hread := readable_perm filter other hperm
  -- Either both can be read or neither can.
  by_cases h : Readable filter
  · rw [accepts_eq_all filter h, accepts_eq_all other (hread.mp h), hperm.all_eq]
  · rw [accepts_of_not_readable filter h, accepts_of_not_readable other (mt hread.mpr h)]

theorem readItems_documents (clauses : List Document) :
    readItems (clauses.map .document) = clauses.mapM read := by
  induction clauses with
  | nil => rfl
  | cons clause clauses ih =>
      rw [List.map_cons, List.mapM_cons, ← ih]
      rfl

/-- The filter of a stage that matches some filters is all of them. -/
theorem read_match (clauses : List Document) (hne : clauses ≠ []) :
    read [("$and", .array (clauses.map .document))] = (clauses.mapM read).map all := by
  have hparts : readParts (.array (clauses.map .document)) = clauses.mapM read := by
    -- An empty list of parts is an error of its own, so there is at least one.
    rcases clauses with _ | ⟨clause, clauses⟩
    · exact absurd rfl hne
    · rw [← readItems_documents]
      rfl
  rw [read, readEntries, if_pos rfl, hparts]
  rcases clauses.mapM read with e | fs
  · rfl
  · rfl

/-- The stage that matches some filters is the stage of their conjunction. -/
theorem ofDocument_match_eq (clauses : List Document) :
    Stage.ofDocument [("$match", .document [("$and", .array (clauses.map .document))])] =
      Stage.ofFilterDocument [("$and", .array (clauses.map .document))] := rfl

/-- The stage that matches some filters keeps what satisfies all of them. -/
theorem ofDocument_match (clauses : List Document) (hne : clauses ≠ [])
    (h : ∀ clause ∈ clauses, Readable clause) :
    ∃ f, Stage.ofDocument
        [("$match", .document [("$and", .array (clauses.map .document))])] = .filter f ∧
      ∀ d, f.holds d = clauses.all fun clause => accepts clause d := by
  rcases (exists_mapM_ok_iff read clauses).mpr h with ⟨fs, hfs⟩
  -- The parts that have been read make one conjunction.
  refine ⟨all fs, ?_, ?_⟩
  · rw [ofDocument_match_eq, Stage.ofFilterDocument, read_match clauses hne, hfs]
    rfl
  · intro d
    rw [holds, holdsAll_eq]
    rw [mapM_eq_ok_iff] at hfs
    clear h hne
    induction hfs with
    | nil => rfl
    | cons hclause _ ih => rw [List.all_cons, List.all_cons, ih, accepts_of_read _ _ hclause]

/-- A stage that matches some filters and does not fail could read all of
    them. -/
theorem readable_of_run_match (collection : String → List Document) (clauses : List Document)
    (hne : clauses ≠ []) (docs matched : List Document)
    (h : Stage.run collection (Stage.ofDocument
      [("$match", .document [("$and", .array (clauses.map .document))])]) docs = .ok matched) :
    ∀ clause ∈ clauses, Readable clause := by
  rw [ofDocument_match_eq, Stage.ofFilterDocument, read_match clauses hne] at h
  rcases hread : clauses.mapM read with e | fs
  · rw [hread] at h
    cases h
  · exact (exists_mapM_ok_iff read clauses).mp ⟨fs, hread⟩

end Filter

end DocQuery
