import DocQuery.Proofs.Store.Log
import Mathlib.Algebra.BigOperators.Group.Finset.Piecewise

/-!
# What Seeds Leave

A seed for one collection is read as a whole before anything is added, so one
that fails leaves the store as it was. A seed for several collections is not:
they are filled in their order, and if one of them is wrong, those before it
stay filled. Such a failure goes unnoticed only if there was nothing to add to
the collections before, and they were all there already.

A seed that goes through returns the number of the documents that it has added
to all collections together.

The two directions of "leaves no trace" are not alike. That batches without
documents for known collections change nothing is a fact about each insertion.
That others leave something is seen at the end, from the documents that a
collection has more than before and from the names that have come in, since
later batches do not take anything back.

The number that is returned is counted while the batches are inserted, and what
has been added is spread over the collections. The two are compared through the
log: each of its entries belongs to one collection, so the parts for all
collections make up the whole (`sum_length_logged`).

## Theorems

* `Store.count_insertAll`: How many documents batches add to a collection.
* `Store.seedCollections_snd`, `seed_snd`: The number that a seed returns.
* `Store.insertAll_eq_self`, `insertAll_unchanged_iff`: The batches that leave no
  trace.
* `Store.seed_outcome`: What a seed leaves, whether it fails or not.
* `Store.seed_fills_before_fault`: A seed that fails and leaves documents.
-/

namespace DocQuery

namespace Batch

/-- The documents of some batches, each with its collection. -/
def handed (batches : List Batch) : List (String × Document) :=
  batches.flatMap entries

/-- The documents of the first batch come first. -/
theorem handed_cons (batch : Batch) (batches : List Batch) :
    handed (batch :: batches) = batch.entries ++ handed batches := rfl

theorem length_entries (batch : Batch) : batch.entries.length = batch.2.length := by
  rw [entries, List.length_map]

/-- An array that is wrong has no part that is right. -/
theorem ofSeed_of_array (name : String) (text : List Char) (items : List Json)
    (h : Json.read? text = some (.array items)) (e : SeedError)
    (he : items.mapM Store.seedDocument = .error e) : ofSeed name text = [] := by
  rw [ofSeed, h]
  simp only [ofEntries, ofEntry?, he]

end Batch

namespace Store

theorem length_identify (supply : Supply) (made : Nat) (docs : List Document) :
    (identify supply made docs).2.length = docs.length := by
  induction docs generalizing made with
  | nil => rfl
  | cons d docs ih =>
      rw [identify]
      split
      · exact congrArg Nat.succ (ih made)
      · exact congrArg Nat.succ (ih (made + 1))

/-- As many identifiers are returned as documents are inserted. -/
theorem length_insert_snd (s : Store) (batch : Batch) :
    (s.insert batch.1 batch.2).2.length = batch.2.length := by
  -- The identifiers returned are those of the documents that are kept.
  rcases kept_identify s.supply s.made batch.1 batch.2 with ⟨count, -, hkept⟩
  have hlength := congrArg List.length (insert_snd s batch _ hkept)
  rwa [List.length_map, List.length_map, length_identify] at hlength

/-- Batches add as many documents to the end of a collection as they have for
    it. -/
theorem documents_insertAll (s : Store) (batches : List Batch) (name : String) :
    ∃ added, (s.insertAll batches).documents name = s.documents name ++ added ∧
      added.length = (logged name (Batch.handed batches)).length := by
  induction batches generalizing s with
  | nil => exact ⟨[], (List.append_nil _).symm, rfl⟩
  | cons batch batches ih =>
      rcases ih (s.insert batch.1 batch.2).1 with ⟨added, hadded, hlength⟩
      rw [insertAll_cons, hadded, Batch.handed_cons, logged_append, logged_entries]
      by_cases hname : batch.1 = name
      · -- What this batch adds stands before what the others do.
        subst hname
        refine ⟨(identify s.supply s.made batch.2).2 ++ added, ?_, ?_⟩
        · rw [documents_insert_self, List.append_assoc]
        · rw [if_pos rfl, List.length_append, List.length_append, length_identify, hlength]
      · refine ⟨added, ?_, ?_⟩
        · rw [documents_insert_of_ne s batch.1 name batch.2 (Ne.symm hname)]
        · rw [if_neg hname, List.nil_append, hlength]

/-- An insertion brings in the name of its collection, also without any
    documents. -/
theorem mem_names_insert (s : Store) (batch : Batch) (name : String) :
    name ∈ (s.insert batch.1 batch.2).1.names ↔ name ∈ s.names ∨ name = batch.1 := by
  rw [mem_names_iff, mem_names_iff]
  have hnames : (s.insert batch.1 batch.2).1.collections.map Prod.fst = _ :=
    map_fst_extend s.collections batch.1 _
  rw [hnames]
  split
  · rename_i hmem
    exact (or_iff_left_of_imp fun hname => hname ▸ hmem).symm
  · rw [List.mem_append, List.mem_singleton]

/-- The collections after some batches are those before and those of the
    batches. -/
theorem mem_names_insertAll (s : Store) (batches : List Batch) (name : String) :
    name ∈ (s.insertAll batches).names ↔ name ∈ s.names ∨ ∃ batch ∈ batches, name = batch.1 := by
  induction batches generalizing s with
  | nil => simp [insertAll]
  | cons batch batches ih =>
      -- The first batch brings in its own name, and the others theirs.
      rw [insertAll_cons, ih, mem_names_insert, or_assoc, List.exists_mem_cons_iff]

/-- The parts of a log for all of its collections make up the log. -/
theorem sum_length_logged (names : Finset String) (log : List (String × Document))
    (h : ∀ entry ∈ log, entry.1 ∈ names) :
    ∑ name ∈ names, (logged name log).length = log.length := by
  induction log with
  | nil => exact Finset.sum_eq_zero fun name _ => rfl
  | cons entry log ih =>
      rw [List.forall_mem_cons] at h
      -- The first entry belongs to one of the collections.
      have hfirst : ∀ name, (logged name (entry :: log)).length =
          (if entry.1 = name then 1 else 0) + (logged name log).length := by
        intro name
        have hsplit := congrArg List.length (logged_append name [entry] log)
        rw [List.length_append] at hsplit
        refine hsplit.trans (congrArg (· + _) ?_)
        have hentry := congrArg List.length (logged_entries name (entry.1, [entry.2]))
        refine hentry.trans ?_
        split
        · rfl
        · rfl
      simp only [hfirst]
      rw [Finset.sum_add_distrib, ih h.2, Finset.sum_ite_eq, if_pos h.1, List.length_cons]
      exact Nat.add_comm 1 _

/-- What a seed of several collections returns: the number of the documents in
    its batches on top of those before. -/
theorem seedCollections_snd (s : Store) (inserted n : Nat) (fields : List (String × Json))
    (h : (s.seedCollections inserted fields).2 = .ok n) :
    n = inserted + (Batch.handed (Batch.ofEntries fields)).length := by
  induction fields generalizing s inserted with
  | nil =>
      cases h
      rfl
  | cons entry fields ih =>
      rcases entry with ⟨name, j⟩
      cases j with
      | array items =>
          rw [seedCollections, seedCollection] at h
          rw [Batch.ofEntries, Batch.ofEntry?]
          rcases hitems : items.mapM seedDocument with e | docs
          · rw [hitems] at h
            cases h
          · -- The documents are counted before the rest of the seed is inserted.
            rw [hitems] at h
            have hrest : n = inserted + (s.insert name docs).2.length +
                (Batch.handed (Batch.ofEntries fields)).length := ih _ _ h
            rw [length_insert_snd s (name, docs)] at hrest
            rw [hrest, Nat.add_assoc]
            simp only [Batch.handed_cons, List.length_append, Batch.length_entries]
      | _ => cases h

/-- A seed returns the number of the documents in its batches. -/
theorem seed_snd (s : Store) (name : String) (text : List Char) (n : Nat)
    (h : (s.seed name text).2 = .ok n) :
    n = (Batch.handed (Batch.ofSeed name text)).length := by
  unfold seed at h
  unfold Batch.ofSeed
  rcases hread : Json.read? text with _ | j
  · rw [hread] at h
    cases h
  rw [hread] at h
  cases j with
  | array items =>
      -- One collection is the same as several of which the others are missing.
      have hall : (s.seedCollections 0 [(name, .array items)]).2 = .ok n := by
        rw [seedCollections]
        rcases hone : s.seedCollection name items with ⟨s', e | m⟩
        · simp only [hone] at h
          cases h
        · simp only [hone, seedCollections] at h ⊢
          rw [Nat.zero_add]
          exact h
      exact (seedCollections_snd s 0 n _ hall).trans (Nat.zero_add _)
  | object fields => exact (seedCollections_snd s 0 n fields h).trans (Nat.zero_add _)
  | _ => cases h

/-- To add nothing to a collection that is there changes nothing. -/
theorem extend_nil (cs : List (String × List Document)) (name : String)
    (h : name ∈ cs.map Prod.fst) : extend cs name [] = cs := by
  induction cs with
  | nil => cases h
  | cons c cs ih =>
      rcases c with ⟨k, old⟩
      rw [extend]
      split
      · rw [List.append_nil]
      · rename_i hk
        rw [List.map_cons, List.mem_cons] at h
        rw [ih (h.resolve_left (Ne.symm hk))]

/-- Batches without documents for collections that are there leave no trace. -/
theorem insertAll_eq_self (s : Store) (batches : List Batch)
    (h : ∀ batch ∈ batches, batch.2 = [] ∧ batch.1 ∈ s.names) : s.insertAll batches = s := by
  induction batches with
  | nil => rfl
  | cons batch batches ih =>
      rw [List.forall_mem_cons] at h
      -- No identifier is made for no documents.
      have hself : (s.insert batch.1 batch.2).1 = s := by
        rw [h.1.1]
        exact congrArg (fun cs => { s with collections := cs })
          (extend_nil s.collections batch.1 ((mem_names_iff s batch.1).mp h.1.2))
      rw [insertAll_cons, hself, ih h.2]

/-- All other batches leave documents or a collection that was not there. -/
theorem insertAll_unchanged_iff (s : Store) (batches : List Batch) :
    ((∀ name, (s.insertAll batches).documents name = s.documents name) ∧
        (s.insertAll batches).names = s.names) ↔
      ∀ batch ∈ batches, batch.2 = [] ∧ batch.1 ∈ s.names := by
  constructor
  · rintro ⟨hdocuments, hnames⟩ batch hbatch
    constructor
    · -- The documents of the batch are among those that its collection has more than before.
      rcases documents_insertAll s batches batch.1 with ⟨added, hadded, hlength⟩
      rw [hdocuments, List.self_eq_append_right] at hadded
      rw [hadded, List.length_nil, eq_comm, List.length_eq_zero_iff] at hlength
      refine List.eq_nil_iff_forall_not_mem.mpr fun d hd => ?_
      have hmem : d ∈ logged batch.1 (Batch.handed batches) := by
        refine List.mem_map.mpr ⟨(batch.1, d), List.mem_filter.mpr ⟨?_, decide_eq_true rfl⟩, rfl⟩
        exact List.mem_flatMap.mpr ⟨batch, hbatch, List.mem_map_of_mem hd⟩
      rw [hlength] at hmem
      exact List.not_mem_nil hmem
    · rw [← hnames, mem_names_insertAll]
      exact Or.inr ⟨batch, hbatch, rfl⟩
  · intro h
    rw [insertAll_eq_self s batches h]
    exact ⟨fun _ => rfl, rfl⟩

/-- What a seed leaves are the insertions of its collections up to the first that
    is wrong. One that goes through has added documents to the ends of the
    collections, and returns their number. One that fails has changed nothing
    exactly if there was nothing to add to the collections before the wrong one
    and they were all there. It never changes anything if it is not for several
    collections. -/
theorem seed_outcome (s : Store) (name : String) (text : List Char) :
    (s.seed name text).1 = s.insertAll (Batch.ofSeed name text) ∧
    match (s.seed name text).2 with
    | .ok n => ∃ added : String → List Document,
        (∀ c, (s.seed name text).1.documents c = s.documents c ++ added c) ∧
        n = ∑ c ∈ (s.seed name text).1.names.toFinset, (added c).length
    | .error _ =>
        (((∀ c, (s.seed name text).1.documents c = s.documents c) ∧
            (s.seed name text).1.names = s.names) ↔
          ∀ batch ∈ Batch.ofSeed name text, batch.2 = [] ∧ batch.1 ∈ s.names) ∧
        ((∀ fields, Json.read? text ≠ some (.object fields)) → (s.seed name text).1 = s) := by
  rw [seed_fst]
  refine ⟨rfl, ?_⟩
  rcases houtcome : (s.seed name text).2 with e | n
  · refine ⟨insertAll_unchanged_iff s _, fun hobject => ?_⟩
    -- A text that is not for several collections and fails has no batch at all.
    have hnone : Batch.ofSeed name text = [] := by
      unfold seed at houtcome
      rcases hread : Json.read? text with _ | j
      · rw [Batch.ofSeed, hread]
      rw [hread] at houtcome
      cases j with
      | array items =>
          simp only [seedCollection] at houtcome
          rcases hitems : items.mapM seedDocument with e' | docs
          · exact Batch.ofSeed_of_array name text items hread e' hitems
          · rw [hitems] at houtcome
            cases houtcome
      | object fields => exact absurd hread (hobject fields)
      | _ => rw [Batch.ofSeed, hread]
    rw [hnone]
    rfl
  · -- One that goes through: what has been added, collection by collection.
    choose added hadded hlength using documents_insertAll s (Batch.ofSeed name text)
    refine ⟨added, hadded, ?_⟩
    simp only [hlength]
    rw [sum_length_logged, seed_snd s name text n houtcome]
    intro entry hentry
    -- Every entry of the log is of a collection that is there at the end.
    rcases List.mem_flatMap.mp hentry with ⟨batch, hbatch, hmem⟩
    rcases List.mem_map.mp hmem with ⟨d, -, rfl⟩
    rw [List.mem_toFinset, mem_names_insertAll]
    exact Or.inr ⟨batch, hbatch, rfl⟩

/-- A seed for two collections, the second of which is no array. -/
def faultySeed : List Char :=
  "\x7b\"orgs\": [\x7b\"_id\": 1\x7d], \"users\": 1\x7d".toList

/-- A seed that fails can have filled a collection that was not there. -/
theorem seed_fills_before_fault :
    ((empty (.counting ⟨0⟩)).seed "users" faultySeed).2 = .error .shape ∧
      (empty (.counting ⟨0⟩)).names = [] ∧
      ((empty (.counting ⟨0⟩)).seed "users" faultySeed).1.names = ["orgs"] ∧
      (empty (.counting ⟨0⟩)).count "orgs" = 0 ∧
      ((empty (.counting ⟨0⟩)).seed "users" faultySeed).1.count "orgs" = 1 := by
  decide +kernel

end Store

end DocQuery
