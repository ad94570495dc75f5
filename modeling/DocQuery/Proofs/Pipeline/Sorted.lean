import DocQuery.Proofs.Outcome
import DocQuery.Proofs.Pipeline.Ordering
import Mathlib.Data.List.Forall2
import Mathlib.Order.Compare

/-!
# Sorted Documents

What the stage that sorts documents does where the order of values is a total
preorder. The documents it gives are those it was given. They stand in the
lexicographic order of the keys, each taken in its direction, and documents that
are equal at all keys stand as they stood.

The preorder is needed key by key only, and only on the values that the
documents have. It carries over to all keys together as the lexicographic order
of two preorders is one, and so does a preorder that is turned around. That a
descending key turns the order around does not turn around documents that are
equal: they are equal in both directions.

Stability is stated with the places of the documents: of two that are equal at
all keys, the one that stood first still does. As a list may hold a document
twice, this cannot be said of the documents alone. So the result is a list of
documents with the places they had, in which those that are equal at all keys
have increasing places.

## Main definitions

* `SortKeys.Precedes`: One document is less than another at the first key at
  which they differ.
* `SortKeys.Tied`: Two documents are equal at all keys.
* `SortKeys.SortsStably`: Some documents are others in the order of the keys.
* `SortKeys.Stands`: The key that an entry of the stage stands for.

## Theorems

* `SortKeys.compare_eq_lt_iff`, `compare_eq_eq_iff`: The order of two documents.
* `SortKeys.transitiveOn_of_preorderOn`: From each key to all of them.
* `SortKeys.sortsStably_sort`: Documents sorted by keys are sorted stably.
* `Stage.run_sort_stable`: What the stage does.
-/

namespace DocQuery

namespace SortKeys

/-- One document comes before another: at the first key at which their values
    differ, its value is less, or greater if the key is descending. -/
inductive Precedes (a b : Document) : SortKeys → Prop
  | ascending {path : Path} {keys : SortKeys}
      (h : Value.sortOrder (a.at? path) (b.at? path) = .lt) :
      Precedes a b ((path, .ascending) :: keys)
  | descending {path : Path} {keys : SortKeys}
      (h : Value.sortOrder (a.at? path) (b.at? path) = .gt) :
      Precedes a b ((path, .descending) :: keys)
  | later {key : Path × Direction} {keys : SortKeys}
      (h : Value.sortOrder (a.at? key.1) (b.at? key.1) = .eq) (hkeys : Precedes a b keys) :
      Precedes a b (key :: keys)

/-- Two documents have equal values at all keys. -/
def Tied (keys : SortKeys) (a b : Document) : Prop :=
  ∀ key ∈ keys, Value.sortOrder (a.at? key.1) (b.at? key.1) = .eq

/-- Some documents are others in the order of the keys. -/
structure SortsStably (keys : SortKeys) (docs sorted : List Document) : Prop where
  /-- No document is lost and none is added. -/
  perm : sorted.Perm docs
  /-- Of two documents, the first one comes before the other or they are equal. -/
  ordered : sorted.Pairwise fun a b => Precedes a b keys ∨ keys.Tied a b
  /-- With the places that the documents had, those of documents that are equal
      are still in order. -/
  stable : ∃ placed : List (Document × Nat), placed.Perm docs.zipIdx ∧
    placed.map Prod.fst = sorted ∧
      placed.Pairwise fun a b => Precedes a.1 b.1 keys ∨ keys.Tied a.1 b.1 ∧ a.2 < b.2

/-- The first key decides, and where it finds no difference the others do. -/
theorem compare_cons (key : Path × Direction) (keys : SortKeys) (a b : Document) :
    compare (key :: keys) a b =
      (key.2.apply (Value.sortOrder (a.at? key.1) (b.at? key.1))).then (keys.compare a b) :=
  rfl

/-- Equal values are equal in both directions. -/
theorem apply_eq_eq_iff (direction : Direction) (o : Ordering) :
    direction.apply o = .eq ↔ o = .eq := by
  cases direction with
  | ascending => exact Iff.rfl
  | descending => exact Ordering.swap_eq_eq

/-- Documents are equal in the order of the keys exactly if they are so at every
    key. -/
theorem compare_eq_eq_iff (keys : SortKeys) (a b : Document) :
    keys.compare a b = .eq ↔ keys.Tied a b := by
  induction keys with
  | nil => exact iff_of_true rfl nofun
  | cons key keys ih =>
      rw [compare_cons, Ordering.then_eq_eq, apply_eq_eq_iff, ih, Tied, Tied,
        List.forall_mem_cons]

/-- A document is less exactly if it is at the first key at which the two
    differ. -/
theorem compare_eq_lt_iff (keys : SortKeys) (a b : Document) :
    keys.compare a b = .lt ↔ Precedes a b keys := by
  induction keys with
  | nil => exact iff_of_false nofun nofun
  | cons key keys ih =>
      rw [compare_cons, Ordering.then_eq_lt, apply_eq_eq_iff, ih]
      -- A descending key swaps the order of the values, so it finds less where they are
      -- greater.
      rcases key with ⟨path, direction⟩
      constructor
      · rintro (h | ⟨h, hkeys⟩)
        · cases direction with
          | ascending => exact .ascending h
          | descending => exact .descending (Ordering.swap_eq_lt.mp h)
        · exact .later h hkeys
      · intro h
        cases h with
        | ascending h => exact .inl h
        | descending h => exact .inl (Ordering.swap_eq_lt.mpr h)
        | later h hkeys => exact .inr ⟨h, hkeys⟩

/-- The order of documents at one key. -/
theorem transCmp_key (key : Path × Direction) (docs : List Document)
    (h : Value.PreorderOn (docs.map (·.at? key.1))) :
    Std.TransCmp fun a b : {d // d ∈ docs} =>
      key.2.apply (Value.sortOrder (a.val.at? key.1) (b.val.at? key.1)) := by
  have hvalue : ∀ a : {d // d ∈ docs}, a.val.at? key.1 ∈ docs.map (·.at? key.1) := fun a =>
    List.mem_map_of_mem a.2
  -- In one direction the order of the values is the whole of it.
  have hascending : Std.TransCmp fun a b : {d // d ∈ docs} =>
      Value.sortOrder (a.val.at? key.1) (b.val.at? key.1) := by
    refine { eq_swap := Value.sortOrder_swap _ _, isLE_trans := ?_ }
    intro a b c hab hbc
    rw [Ordering.isLE_iff_ne_gt] at hab hbc ⊢
    exact h _ (hvalue a) _ (hvalue b) _ (hvalue c) hab hbc
  rcases key with ⟨path, direction⟩
  cases direction with
  | ascending => exact hascending
  | descending =>
      -- To turn the result around is to compare the documents the other way round.
      have hopposite := hascending.opposite
      simp only [Direction.apply, ← Value.sortOrder_swap]
      exact hopposite

/-- The order of documents at several keys is lexicographic. -/
theorem transCmp_compare (keys : SortKeys) (docs : List Document)
    (h : ∀ key ∈ keys, Value.PreorderOn (docs.map (·.at? key.1))) :
    Std.TransCmp fun a b : {d // d ∈ docs} => keys.compare a.val b.val := by
  induction keys with
  | nil => exact { eq_swap := rfl, isLE_trans := fun _ _ => rfl }
  | cons key keys ih =>
      rw [List.forall_mem_cons] at h
      have hkey := transCmp_key key docs h.1
      have hkeys := ih h.2
      exact inferInstanceAs (Std.TransCmp (compareLex
        (fun a b : {d // d ∈ docs} =>
          key.2.apply (Value.sortOrder (a.val.at? key.1) (b.val.at? key.1)))
        fun a b : {d // d ∈ docs} => SortKeys.compare keys a.val b.val))

theorem transitiveOn_of_preorderOn (keys : SortKeys) (docs : List Document)
    (h : ∀ key ∈ keys, Value.PreorderOn (docs.map (·.at? key.1))) : keys.TransitiveOn docs := by
  have hcompare := transCmp_compare keys docs h
  intro a ha b hb c hc hab hbc
  rw [ne_eq, ← Ordering.isLE_iff_ne_gt] at hab hbc ⊢
  exact hcompare.isLE_trans (a := ⟨a, ha⟩) (b := ⟨b, hb⟩) (c := ⟨c, hc⟩) hab hbc

/-- Two documents of which neither is less than the other are equal at all keys. -/
theorem tied_of_alike (keys : SortKeys) (a b : Document)
    (h : Sorting.alike (fun a b => keys.compare a b == .lt) a b = true) : keys.Tied a b := by
  rw [Sorting.alike_iff] at h
  have hge : keys.compare a b ≠ .gt := (keys.not_less_iff a b).mp h.2
  have hlt : keys.compare a b ≠ .lt := ne_of_beq_false h.1
  rw [← compare_eq_eq_iff]
  -- Of the three orders, two are excluded.
  cases ho : keys.compare a b with
  | eq => rfl
  | lt => exact absurd ho hlt
  | gt => exact absurd ho hge

/-- Where the keys are transitive, there is a stable order. -/
theorem sortsStably_sort (keys : SortKeys) (docs : List Document) (h : keys.TransitiveOn docs) :
    ∃ sorted, keys.sort docs = some sorted ∧ keys.SortsStably docs sorted := by
  rcases Sorting.sortBy_places_of_consistentOn (consistentOn_of_transitiveOn keys docs h) with
    ⟨placed, hperm, hsort, hpairwise⟩
  -- What the merge says of its test, said of the keys.
  have hplaced : placed.Pairwise fun a b =>
      Precedes a.1 b.1 keys ∨ keys.Tied a.1 b.1 ∧ a.2 < b.2 :=
    hpairwise.imp fun {a b} hab => hab.imp
      (fun hlt => (compare_eq_lt_iff keys a.1 b.1).mp (eq_of_beq hlt))
      (And.imp_left (tied_of_alike keys a.1 b.1))
  refine ⟨placed.map Prod.fst, hsort, perm_sort keys hsort, ?_, placed, hperm, rfl, hplaced⟩
  rw [List.pairwise_map]
  exact hplaced.imp (Or.imp_right And.left)

/-- The key that an entry of the stage stands for. -/
def Stands (entry : String × Value) (key : Path × Direction) : Prop :=
  key.1 = Path.ofString entry.1 ∧ Direction.ofValue? entry.2 = some key.2

/-- Entries with directions stand for keys. -/
theorem ofDocument_of_directions (spec : Document)
    (h : ∀ entry ∈ spec, (Direction.ofValue? entry.2).isSome = true) :
    ∃ keys, ofDocument spec = .ok keys ∧ List.Forall₂ Stands spec keys := by
  have hkeys : ∃ keys, ofDocument spec = .ok keys := by
    refine (exists_mapM_ok_iff _ spec).mpr fun entry hentry => ?_
    rcases Option.isSome_iff_exists.mp (h entry hentry) with ⟨direction, hdirection⟩
    exact ⟨(Path.ofString entry.1, direction), by rw [hdirection]⟩
  rcases hkeys with ⟨keys, hkeys⟩
  refine ⟨keys, hkeys, ((mapM_eq_ok_iff _ spec keys).mp hkeys).imp ?_⟩
  intro entry key hkey
  rcases hdirection : Direction.ofValue? entry.2 with _ | direction
  · rw [hdirection] at hkey
    cases hkey
  · rw [hdirection] at hkey
    cases hkey
    exact ⟨rfl, hdirection⟩

theorem exists_entry {spec : Document} {keys : SortKeys} (h : List.Forall₂ Stands spec keys)
    {key : Path × Direction} (hkey : key ∈ keys) : ∃ entry ∈ spec, Stands entry key := by
  induction h with
  | nil => cases hkey
  | cons hentry _ ih =>
      rcases List.mem_cons.mp hkey with rfl | hkey
      · exact ⟨_, List.mem_cons_self, hentry⟩
      · rcases ih hkey with ⟨entry, hmem, hstands⟩
        exact ⟨entry, List.mem_cons_of_mem _ hmem, hstands⟩

end SortKeys

namespace Stage

/-- The stage that sorts is a stable sort by several keys wherever the order of
    values is a total preorder at each key. Then to sort twice is to sort once,
    and to drop documents before or after they are sorted is the same. -/
theorem run_sort_stable (collection : String → List Document) (spec : Document)
    (docs : List Document)
    (hdirections : ∀ entry ∈ spec, (Direction.ofValue? entry.2).isSome = true)
    (hpreorder : ∀ entry ∈ spec,
      Value.PreorderOn (docs.map (·.at? (Path.ofString entry.1)))) :
    ∃ (keys : SortKeys) (sorted : List Document), List.Forall₂ SortKeys.Stands spec keys ∧
      run collection (ofDocument [("$sort", .document spec)]) docs = .ok sorted ∧
        keys.SortsStably docs sorted ∧
        run collection (ofDocument [("$sort", .document spec)]) sorted = .ok sorted ∧
        (∀ p : Document → Bool,
          run collection (ofDocument [("$sort", .document spec)]) (docs.filter p) =
            .ok (sorted.filter p)) ∧
        ∀ a b, Value.Absent a → (Value.Absent b → Value.sortOrder a b = .eq) ∧
          (¬Value.Absent b → Value.sortOrder a b = .lt) := by
  rcases SortKeys.ofDocument_of_directions spec hdirections with ⟨keys, hkeys, hstands⟩
  -- What holds of the values under each entry holds of those at each key.
  have hvalues : ∀ key ∈ keys, Value.PreorderOn (docs.map (·.at? key.1)) := by
    intro key hkey
    rcases SortKeys.exists_entry hstands hkey with ⟨entry, hentry, hpath, -⟩
    rw [hpath]
    exact hpreorder entry hentry
  have htransitive := SortKeys.transitiveOn_of_preorderOn keys docs hvalues
  rcases keys.sortsStably_sort docs htransitive with ⟨sorted, hsorted, hstable⟩
  refine ⟨keys, sorted, hstands, ?_, hstable, ?_, fun p => ?_,
    fun a b ha => Value.sortOrder_of_absent ha b⟩
  · rw [run_sort collection hkeys, hsorted, Option.elim_some]
  · rw [run_sort collection hkeys, keys.sort_sort htransitive hsorted, Option.elim_some]
  · rw [run_sort collection hkeys, keys.sort_filter docs htransitive p, hsorted, Option.map_some,
      Option.elim_some]

/-- A key upward and one downward. -/
def mixedSpec : Document :=
  [("a", .int32 1), ("b.c", .double ⟨0xBFF0000000000000⟩)]

/-- Documents of which the first key is a text, a number of either kind, missing,
    or null. -/
def mixedDocs : List Document :=
  [[("_id", .int32 1), ("a", .string "x")],
   [("_id", .int32 2), ("a", .int64 5), ("b", .document [("c", .int32 1)])],
   [("_id", .int32 3), ("a", .double ⟨0x4014000000000000⟩), ("b", .document [("c", .int32 2)])],
   [("_id", .int32 4), ("b", .document [("c", .null)])],
   [("_id", .int32 5), ("a", .null)]]

/-- The values of the documents at each key are in a total preorder, so these
    documents are sorted stably. -/
theorem run_sort_stable_mixed :
    (∀ entry ∈ mixedSpec, (Direction.ofValue? entry.2).isSome = true) ∧
      (∀ entry ∈ mixedSpec, Value.PreorderOn (mixedDocs.map (·.at? (Path.ofString entry.1)))) ∧
        ∃ (keys : SortKeys) (sorted : List Document),
          List.Forall₂ SortKeys.Stands mixedSpec keys ∧
            run (fun _ => []) (ofDocument [("$sort", .document mixedSpec)]) mixedDocs =
              .ok sorted ∧
              keys.SortsStably mixedDocs sorted := by
  have hdirections : ∀ entry ∈ mixedSpec, (Direction.ofValue? entry.2).isSome = true := by
    decide
  have hpreorder : ∀ entry ∈ mixedSpec,
      Value.PreorderOn (mixedDocs.map (·.at? (Path.ofString entry.1))) := by
    unfold Value.PreorderOn
    decide
  rcases run_sort_stable (fun _ => []) mixedSpec mixedDocs hdirections hpreorder with
    ⟨keys, sorted, hstands, hrun, hstable, -⟩
  exact ⟨hdirections, hpreorder, keys, sorted, hstands, hrun, hstable⟩

/-- The missing key and null are equal, and so are the two fives, which the
    second key puts the other way round. -/
example : (SortKeys.sort [(Path.ofString "a", .ascending), (Path.ofString "b.c", .descending)]
    mixedDocs).map (List.map fun d => (d.get? "_id").bind Value.integer?) =
      some [some 4, some 5, some 3, some 2, some 1] := by
  decide

end Stage

end DocQuery
