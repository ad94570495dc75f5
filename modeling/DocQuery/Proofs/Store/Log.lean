import DocQuery.Store.Session
import Mathlib.Algebra.Group.Nat.Defs
import Mathlib.Data.List.Basic
import Mathlib.Data.List.Induction
import Mathlib.Data.List.Nodup
import Mathlib.Tactic.Common

/-!
# Stores as Logs

A store is an append-only log. Whatever is done with it, a collection has the
documents that were handed to insertions into it, in the order of the calls: one
with an identifier as it was, one without behind an identifier that was made for
it. Nothing that is there is changed or removed, and an insertion into one
collection leaves the others as they are.

A seed is a number of insertions: one batch for each collection, up to the first
that is wrong. So every operation is a number of insertions, and what insertions
keep holds after any operations.

The identifiers that have been made are the first ones of the supply. Whether
they differ from each other is a question about the supply alone, and it is
asked only of as many of them as have been made: there are no more than `2 ^ 96`
identifiers, so no supply goes on for ever without repeating one.

The log is not kept by the store. A store has its collections only, each with
its own documents, and what a document of one collection was preceded by in
another is forgotten. So `IsLog` relates a store to a log that is given beside
it, and the induction over batches makes the log longer with the store. `Kept`
says how the documents in the log came from those that were handed over: it
takes an identifier from the row exactly where a document had none.

Of a supply nothing is assumed. The law about identifiers that are different
asks for a supply that has different ones up to the number that have been made,
and everything else holds of any supply, also of one that repeats itself.

## Main definitions

* `Batch`: Documents handed to an insertion into a collection.
* `Operation.batches`: The batches that an operation inserts.
* `Kept`: Documents as they are kept, with the identifiers made for them.
* `Supply.row`, `Supply.Distinct`: Identifiers in a row, and what is asked of
  them.
* `Store.logged`: The documents of a collection in a log.
* `Store.IsLog`: The invariant: what a store has after some batches.
* `Store.AppendOnly`: What a log means for whoever uses the store.

## Theorems

* `Store.perform_fst`, `performAll_eq`: Operations are insertions.
* `Supply.nodup_row`, `Supply.distinct_counting`: Identifiers in a row are
  different, and counting is a way to make them so.
* `Store.isLog_insert`: What an insertion keeps.
* `Store.performAll_appendOnly`: A store is a log after any operations.
-/

namespace DocQuery

/-- Documents handed to an insertion into a collection. -/
abbrev Batch := String × List Document

namespace Batch

/-- The batch that a collection in a seed stands for, if it is an array of
    documents. -/
def ofEntry? : String × Json → Option Batch
  | (name, .array items) => match items.mapM Store.seedDocument with
    | .ok docs => some (name, docs)
    | .error _ => none
  | _ => none

/-- The batches of a seed, up to the first collection that is wrong. -/
def ofEntries : List (String × Json) → List Batch
  | [] => []
  | entry :: entries => match ofEntry? entry with
    | some batch => batch :: ofEntries entries
    | none => []

/-- The batches of a text that is a seed for a collection or for several. -/
def ofSeed (name : String) (text : List Char) : List Batch :=
  match Json.read? text with
  | some (.array items) => ofEntries [(name, .array items)]
  | some (.object fields) => ofEntries fields
  | _ => []

/-- The documents of a batch, each with its collection. -/
def entries (batch : Batch) : List (String × Document) :=
  batch.2.map fun d => (batch.1, d)

end Batch

/-- The batches that an operation inserts. -/
def Operation.batches : Operation → List Batch
  | insert access docs => [(access.collection, docs)]
  | seed name text => Batch.ofSeed name text
  | aggregate _ _ => []
  | count _ => []

namespace Access

/-- By whichever way a collection is reached, an insertion is one into the
    store. -/
theorem insert_eq (access : Access) (s : Store) (docs : List Document) :
    access.insert s docs = s.insert access.collection docs := by
  cases access with
  | _ => rfl

theorem aggregate_eq (access : Access) (s : Store) (pipeline : List Document) :
    access.aggregate s pipeline = s.aggregate access.collection pipeline := by
  cases access with
  | _ => rfl

theorem count_eq (access : Access) (s : Store) :
    access.count s = (s.documents access.collection).length := by
  cases access with
  | _ => rfl

end Access

namespace Store

/-- A store after several insertions. -/
def insertAll (s : Store) (batches : List Batch) : Store :=
  batches.foldl (fun s batch => (s.insert batch.1 batch.2).1) s

theorem insertAll_cons (s : Store) (batch : Batch) (batches : List Batch) :
    s.insertAll (batch :: batches) = (s.insert batch.1 batch.2).1.insertAll batches := rfl

/-- Batches can be inserted in two goes. -/
theorem insertAll_append (s : Store) (batches more : List Batch) :
    s.insertAll (batches ++ more) = (s.insertAll batches).insertAll more :=
  List.foldl_append

/-- A seed leaves the insertions of its collections up to the first that is
    wrong, however many documents have been counted before. -/
theorem seedCollections_fst (s : Store) (inserted : Nat) (fields : List (String × Json)) :
    (s.seedCollections inserted fields).1 = s.insertAll (Batch.ofEntries fields) := by
  induction fields generalizing s inserted with
  | nil => rfl
  | cons entry fields ih =>
      rcases entry with ⟨name, j⟩
      cases j with
      | array items =>
          rw [seedCollections, seedCollection, Batch.ofEntries, Batch.ofEntry?]
          -- An element that is no document stops the seed at this collection.
          rcases items.mapM seedDocument with e | docs
          · rfl
          · exact ih _ _
      | _ => rfl

/-- A seed is a number of insertions, whether it fails or not. -/
theorem seed_fst (s : Store) (name : String) (text : List Char) :
    (s.seed name text).1 = s.insertAll (Batch.ofSeed name text) := by
  unfold seed Batch.ofSeed
  rcases Json.read? text with _ | j
  · rfl
  cases j with
  | array items =>
      -- One collection is the same as several of which the others are missing.
      have h := seedCollections_fst s 0 [(name, .array items)]
      rw [← h]
      simp only [seedCollections]
      rcases s.seedCollection name items with ⟨s', e | n⟩
      · rfl
      · rfl
  | object fields => exact seedCollections_fst s 0 fields
  | _ => rfl

/-- An insertion, with the identifiers it returns. -/
theorem perform_insert (s : Store) (access : Access) (docs : List Document) :
    s.perform (.insert access docs) =
      ((s.insert access.collection docs).1, .identifiers (s.insert access.collection docs).2) := by
  rw [perform, access.insert_eq]

/-- Every operation is a number of insertions. -/
theorem perform_fst (s : Store) (operation : Operation) :
    (s.perform operation).1 = s.insertAll operation.batches := by
  cases operation with
  | insert access docs =>
      rw [perform_insert]
      rfl
  | aggregate access pipeline => rfl
  | count access => rfl
  | seed name text => exact s.seed_fst name text

/-- Several operations are the insertions of all of them. -/
theorem performAll_eq (s : Store) (operations : List Operation) :
    s.performAll operations = s.insertAll (operations.flatMap Operation.batches) := by
  induction operations generalizing s with
  | nil => rfl
  | cons operation operations ih =>
      rw [performAll, List.foldl_cons, ← performAll, ih, perform_fst, List.flatMap_cons,
        insertAll_append]

end Store

/-- Documents as they are kept, each with its collection, and the identifiers
    that were made for them. -/
inductive Kept : List ObjectId → List (String × Document) → List (String × Document) → Prop
  | nil : Kept [] [] []
  | identified {ids : List ObjectId} {handed kept : List (String × Document)} (name : String)
      (d : Document) (h : d.contains "_id" = true) (hrest : Kept ids handed kept) :
      Kept ids ((name, d) :: handed) ((name, d) :: kept)
  | unidentified {ids : List ObjectId} {handed kept : List (String × Document)} (name : String)
      (d : Document) (id : ObjectId) (h : d.contains "_id" = false)
      (hrest : Kept ids handed kept) :
      Kept (id :: ids) ((name, d) :: handed) ((name, ("_id", .objectId id) :: d) :: kept)

namespace Kept

theorem append {ids ids' : List ObjectId} {handed handed' kept kept' : List (String × Document)}
    (h : Kept ids handed kept) (h' : Kept ids' handed' kept') :
    Kept (ids ++ ids') (handed ++ handed') (kept ++ kept') := by
  induction h with
  | nil => exact h'
  | identified name d hd _ ih => exact .identified name d hd ih
  | unidentified name d id hd _ ih => exact .unidentified name d id hd ih

/-- Every document that is kept has an identifier. -/
theorem contains_id {ids : List ObjectId} {handed kept : List (String × Document)}
    (h : Kept ids handed kept) : ∀ entry ∈ kept, entry.2.contains "_id" = true := by
  induction h with
  | nil => exact fun entry hentry => absurd hentry List.not_mem_nil
  | identified name d hd _ ih => exact List.forall_mem_cons.mpr ⟨hd, ih⟩
  | unidentified name d id _ _ ih => exact List.forall_mem_cons.mpr ⟨rfl, ih⟩

end Kept

namespace Supply

/-- So many identifiers in a row, when so many have been made before. -/
def row (supply : Supply) (made count : Nat) : List ObjectId :=
  (List.range' made count).map supply

/-- What is asked of a supply: its first identifiers, so many of them, are
    different. -/
def Distinct (supply : Supply) (count : Nat) : Prop :=
  ∀ m < count, ∀ n < count, supply m = supply n → m = n

/-- A row is as long as it is asked to be. -/
theorem length_row (supply : Supply) (made count : Nat) :
    (supply.row made count).length = count := by
  rw [row, List.length_map, List.length_range']

theorem row_succ (supply : Supply) (made count : Nat) :
    supply.row made (count + 1) = supply made :: supply.row (made + 1) count := by
  rw [row, List.range'_succ, List.map_cons, row]

/-- A row can be made in two goes, the second where the first has stopped. -/
theorem row_add (supply : Supply) (made m n : Nat) :
    supply.row made (m + n) = supply.row made m ++ supply.row (made + m) n := by
  rw [row, row, row, ← List.map_append, List.range'_append_1]

/-- The first identifiers of a supply are different if that is asked of it. -/
theorem nodup_row (supply : Supply) (count : Nat) (h : supply.Distinct count) :
    (supply.row 0 count).Nodup := by
  refine List.Nodup.map_on ?_ (List.nodup_range' ..)
  intro m hm n hn heq
  rw [List.mem_range'_1] at hm hn
  exact h m (by omega) n (by omega) heq

/-- A supply that counts up has different identifiers until it has made all that
    there are. -/
theorem distinct_counting (first : ObjectId) (count : Nat) (h : count ≤ 2 ^ 96) :
    (counting first).Distinct count := by
  intro m hm n hn heq
  -- Two identifiers are the first one with as much added, so as much was added.
  have hcode := (BitVec.add_right_inj first.code).mp (congrArg ObjectId.code heq)
  have hnat := congrArg BitVec.toNat hcode
  -- Counting does not wrap around below the number of all identifiers.
  rwa [BitVec.toNat_ofNat, BitVec.toNat_ofNat, Nat.mod_eq_of_lt (by omega),
    Nat.mod_eq_of_lt (by omega)] at hnat

end Supply

namespace Store

/-- Identifiers are made in a row, for the documents that have none. -/
theorem kept_identify (supply : Supply) (made : Nat) (name : String) (docs : List Document) :
    ∃ count, (identify supply made docs).1 = made + count ∧
      Kept (supply.row made count) (Batch.entries (name, docs))
        (Batch.entries (name, (identify supply made docs).2)) := by
  induction docs generalizing made with
  | nil => exact ⟨0, rfl, .nil⟩
  | cons d docs ih =>
      rw [identify]
      by_cases hd : d.contains "_id" = true
      · -- A document that has an identifier takes none from the supply.
        rcases ih made with ⟨count, hnext, hkept⟩
        rw [if_pos hd]
        exact ⟨count, hnext, .identified name d hd hkept⟩
      · -- One that has none takes the next.
        rcases ih (made + 1) with ⟨count, hnext, hkept⟩
        rw [if_neg hd]
        refine ⟨count + 1, hnext.trans (Nat.add_right_comm made 1 count), ?_⟩
        rw [Supply.row_succ]
        exact .unidentified name d (supply made) ((Bool.not_eq_true _).mp hd) hkept

/-- The documents of a collection in a log. -/
def logged (name : String) (log : List (String × Document)) : List Document :=
  (log.filter fun entry => entry.1 = name).map Prod.snd

/-- What is logged later comes later. -/
theorem logged_append (name : String) (log more : List (String × Document)) :
    logged name (log ++ more) = logged name log ++ logged name more := by
  rw [logged, List.filter_append, List.map_append, logged, logged]

/-- A batch belongs to one collection. -/
theorem logged_entries (name : String) (batch : Batch) :
    logged name batch.entries = if batch.1 = name then batch.2 else [] := by
  have hsnd : (Prod.snd ∘ fun d => (batch.1, d)) = (id : Document → Document) := rfl
  rw [logged, Batch.entries, List.filter_map, List.map_map, hsnd, List.map_id]
  split
  · -- Every entry of the batch is of its collection.
    rename_i h
    exact List.filter_eq_self.mpr fun d _ => decide_eq_true h
  · rename_i h
    exact List.filter_eq_nil_iff.mpr fun d _ => mt of_decide_eq_true h

/-- A collection that is there keeps its place, and a new one comes last. -/
theorem map_fst_extend (cs : List (String × List Document)) (name : String)
    (docs : List Document) :
    (extend cs name docs).map Prod.fst =
      if name ∈ cs.map Prod.fst then cs.map Prod.fst else cs.map Prod.fst ++ [name] := by
  induction cs with
  | nil => rfl
  | cons c cs ih =>
      rcases c with ⟨k, old⟩
      rw [extend]
      by_cases h : k = name
      · rw [if_pos h, List.map_cons, List.map_cons, if_pos (h ▸ List.mem_cons_self)]
      · -- Another collection stands in front, so the name is looked for in the rest.
        have hmem : name ∈ k :: cs.map Prod.fst ↔ name ∈ cs.map Prod.fst := by
          rw [List.mem_cons]
          exact or_iff_right (Ne.symm h)
        rw [if_neg h, List.map_cons, List.map_cons, ih]
        simp only [hmem]
        split
        · rfl
        · rfl

/-- What a store has after some batches: the log of their documents, and the
    names of their collections. -/
structure IsLog (supply : Supply) (batches : List Batch) (ids : List ObjectId)
    (log : List (String × Document)) (s : Store) : Prop where
  kept : Kept ids (batches.flatMap Batch.entries) log
  row : ids = supply.row 0 ids.length
  supply : s.supply = supply
  made : s.made = ids.length
  documents : ∀ name, s.documents name = logged name log
  names : ∀ name, name ∈ s.collections.map Prod.fst ↔ name ∈ batches.map Prod.fst
  distinct : (s.collections.map Prod.fst).Nodup

/-- A store that was never written to is an empty log. -/
theorem isLog_empty (supply : Supply) : IsLog supply [] [] [] (empty supply) where
  kept := .nil
  row := rfl
  supply := rfl
  made := rfl
  documents _ := rfl
  names _ := Iff.rfl
  distinct := List.nodup_nil

/-- An insertion goes to the end of the log. -/
theorem isLog_insert {supply : Supply} {batches : List Batch} {ids : List ObjectId}
    {log : List (String × Document)} {s : Store} (h : IsLog supply batches ids log s)
    (batch : Batch) :
    ∃ made, Kept made batch.entries
        (Batch.entries (batch.1, (identify s.supply s.made batch.2).2)) ∧
      IsLog supply (batches ++ [batch]) (ids ++ made)
        (log ++ Batch.entries (batch.1, (identify s.supply s.made batch.2).2))
        (s.insert batch.1 batch.2).1 := by
  rcases kept_identify s.supply s.made batch.1 batch.2 with ⟨count, hnext, hkept⟩
  have hlength := Supply.length_row s.supply s.made count
  have hnames : (s.insert batch.1 batch.2).1.collections.map Prod.fst =
      if batch.1 ∈ s.collections.map Prod.fst then s.collections.map Prod.fst
      else s.collections.map Prod.fst ++ [batch.1] :=
    map_fst_extend s.collections batch.1 _
  -- The log goes on with the batch as it is kept, and the row with the identifiers made.
  exact ⟨_, hkept, {
    kept := by
      rw [List.flatMap_append, List.flatMap_singleton]
      exact h.kept.append hkept
    row := by
      rw [List.length_append, hlength, Supply.row_add, ← h.row, Nat.zero_add, ← h.made, h.supply]
    supply := h.supply
    made := by
      rw [List.length_append, hlength, ← h.made]
      exact hnext
    documents := by
      intro name
      rw [logged_append, logged_entries, ← h.documents]
      by_cases hname : batch.1 = name
      · subst hname
        rw [if_pos rfl]
        exact documents_insert_self s batch.1 batch.2
      · rw [if_neg hname, List.append_nil]
        exact documents_insert_of_ne s batch.1 name batch.2 (Ne.symm hname)
    names := by
      intro name
      rw [hnames, List.map_append, List.mem_append, ← h.names]
      split
      · rename_i hmem
        -- The collection is there already, so its name adds nothing.
        rw [List.map_singleton, List.mem_singleton]
        exact (or_iff_left_of_imp fun hname => hname ▸ hmem).symm
      · exact List.mem_append
    distinct := by
      rw [hnames]
      split
      · exact h.distinct
      · rename_i hmem
        exact List.nodup_append_comm.mp (List.nodup_cons.mpr ⟨hmem, h.distinct⟩) }⟩

/-- Batches make a log. The induction is from the end, since the last batch is
    the last one inserted. -/
theorem exists_isLog (supply : Supply) (batches : List Batch) :
    ∃ ids log, IsLog supply batches ids log ((empty supply).insertAll batches) := by
  induction batches using List.reverseRecOn with
  | nil => exact ⟨[], [], isLog_empty supply⟩
  | append_singleton batches batch ih =>
      rcases ih with ⟨ids, log, h⟩
      rcases isLog_insert h batch with ⟨made, -, hlog⟩
      rw [insertAll_append]
      exact ⟨_, _, hlog⟩

/-- The names of the collections are in order, and each is there once. -/
theorem pairwise_names {s : Store} (h : (s.collections.map Prod.fst).Nodup) :
    s.names.Pairwise (· < ·) := by
  -- Merge sort puts them in order, by a test that is total and transitive.
  have hsorted : s.names.Pairwise fun a b => decide (a ≤ b) = true := by
    refine List.pairwise_mergeSort ?_ ?_ _
    · intro a b c hab hbc
      exact decide_eq_true (String.le_trans (of_decide_eq_true hab) (of_decide_eq_true hbc))
    · intro a b
      rw [Bool.or_eq_true, decide_eq_true_eq, decide_eq_true_eq]
      exact String.le_total a b
  -- Sorted and different, the names go up strictly.
  have hnodup : s.names.Nodup := (List.mergeSort_perm _ _).nodup_iff.mpr h
  exact (hsorted.and hnodup).imp fun hab => Std.lt_of_le_of_ne (of_decide_eq_true hab.1) hab.2

theorem mem_names_iff (s : Store) (name : String) :
    name ∈ s.names ↔ name ∈ s.collections.map Prod.fst :=
  (List.mergeSort_perm _ _).mem_iff

/-- Every document of a batch has an identifier when it is added, and these are
    returned. -/
theorem insert_snd (s : Store) (batch : Batch) (made : List ObjectId)
    (h : Kept made batch.entries (Batch.entries (batch.1, (identify s.supply s.made batch.2).2))) :
    (s.insert batch.1 batch.2).2.map some =
      (identify s.supply s.made batch.2).2.map fun d => d.get? "_id" := by
  have hids : ∀ d ∈ (identify s.supply s.made batch.2).2, (d.get? "_id").isSome = true := by
    intro d hd
    exact h.contains_id (batch.1, d) (List.mem_map_of_mem hd)
  change ((identify s.supply s.made batch.2).2.filterMap fun d => d.get? "_id").map some = _
  -- From here on only that each document has an identifier is used.
  generalize (identify s.supply s.made batch.2).2 = docs at hids
  induction docs with
  | nil => rfl
  | cons d docs ih =>
      rcases List.forall_mem_cons.mp hids with ⟨hd, hdocs⟩
      -- The document has one, so nothing is left out.
      rcases Option.isSome_iff_exists.mp hd with ⟨id, hid⟩
      rw [List.filterMap_cons, hid, List.map_cons, List.map_cons, ih hdocs, hid]

/-- A store is a log of the batches that were inserted. -/
structure AppendOnly (supply : Supply) (batches : List Batch) (ids : List ObjectId)
    (log : List (String × Document)) (s : Store) : Prop where
  /-- The log has the documents of the batches, in the order of the calls. -/
  kept : Kept ids (batches.flatMap Batch.entries) log
  /-- The identifiers made are the first ones of the supply. -/
  made : ids = supply.row 0 ids.length
  /-- No identifier is made twice, if the supply has different ones. -/
  fresh : supply.Distinct ids.length → ids.Nodup
  /-- Every document has an identifier. -/
  identified : ∀ entry ∈ log, entry.2.contains "_id" = true
  /-- A collection has its part of the log. -/
  aggregate : ∀ access, s.perform (.aggregate access []) =
    (s, .documents (.ok (logged access.collection log)))
  count : ∀ access, s.perform (.count access) =
    (s, .count (logged access.collection log).length)
  /-- The collections that were inserted into, even without documents, in order. -/
  sorted : s.names.Pairwise (· < ·)
  names : ∀ name, name ∈ s.names ↔ ∃ batch ∈ batches, batch.1 = name
  /-- No pipeline changes anything, whether it fails or not. -/
  unchanged : ∀ access pipeline, (s.perform (.aggregate access pipeline)).1 = s
  /-- One more insertion adds to the end of its collection, changes no other one, and
      returns the identifiers of what it has added. -/
  insert : ∀ access docs, ∃ made added returned,
    Kept made (Batch.entries (access.collection, docs))
      (Batch.entries (access.collection, added)) ∧
    (s.perform (.insert access docs)).2 = .identifiers returned ∧
    returned.map some = (added.map fun d => d.get? "_id") ∧
    ∀ name, (s.perform (.insert access docs)).1.documents name =
      if name = access.collection then s.documents name ++ added else s.documents name

/-- A store that is a log behaves like one for whoever uses it. -/
theorem appendOnly_of_isLog {supply : Supply} {batches : List Batch} {ids : List ObjectId}
    {log : List (String × Document)} {s : Store} (h : IsLog supply batches ids log s) :
    AppendOnly supply batches ids log s where
  kept := h.kept
  made := h.row
  fresh hdistinct := by
    rw [h.row]
    exact supply.nodup_row ids.length hdistinct
  identified := h.kept.contains_id
  aggregate access := by
    rw [perform, access.aggregate_eq, ← h.documents]
    rfl
  count access := by
    rw [perform, access.count_eq, ← h.documents]
  sorted := pairwise_names h.distinct
  names name := by
    rw [mem_names_iff, h.names, List.mem_map]
  unchanged _ _ := rfl
  insert access docs := by
    rcases isLog_insert h (access.collection, docs) with ⟨made, hmade, -⟩
    rw [perform_insert]
    refine ⟨made, _, _, hmade, rfl, insert_snd s _ made hmade, ?_⟩
    intro name
    by_cases hname : name = access.collection
    · rw [if_pos hname, hname]
      exact documents_insert_self s access.collection docs
    · rw [if_neg hname]
      exact documents_insert_of_ne s access.collection name docs hname

/-- Whatever is done with a store that was never written to, it is a log of the
    documents that were handed to insertions. -/
theorem performAll_appendOnly (supply : Supply) (operations : List Operation) :
    ∃ ids log, AppendOnly supply (operations.flatMap Operation.batches) ids log
      ((empty supply).performAll operations) := by
  rcases exists_isLog supply (operations.flatMap Operation.batches) with ⟨ids, log, h⟩
  rw [performAll_eq]
  exact ⟨ids, log, appendOnly_of_isLog h⟩

end Store

end DocQuery
