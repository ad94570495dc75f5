import DocQuery.Pipeline.Stage
import DocQuery.Proofs.Sorting.Order
import DocQuery.Proofs.Value.Order

/-!
# The Order of Documents

To compare two documents the other way round gives the opposite order. So keys
put some documents in a consistent order if they do so transitively. Then the
documents can be sorted, and some can be dropped before or after the others are
sorted.

Keys need not be transitive. A double can be equal to two integers of which one
is less than the other, and a double that is not a number is equal to all numbers.
Where such values meet, the order of a document depends on the others that are
there, and if there are more than twenty documents, the sort may find that out
and give up. What can be said of it in general is that it succeeds on a list
that is short or transitive (`SortKeys.exists_sort`), and what the stage makes of
it where it fails (`Stage.run_sort`).

## Main definitions

* `SortKeys.TransitiveOn`: Keys that put documents in a transitive order.

## Theorems

* `SortKeys.compare_swap`: The order of two documents the other way round.
* `SortKeys.exists_sort`: Documents that can be sorted.
* `SortKeys.sort_filter`: To drop documents and to sort can change places.
* `SortKeys.sort_sort`: Sorting twice.
* `SortKeys.transitiveOn_iff`: They can do so for no other keys.
* `Stage.run_sort`: The stage that sorts by the keys of a document.
-/

namespace DocQuery

open Number

namespace SortKeys

theorem compare_swap (keys : SortKeys) (a b : Document) :
    keys.compare a b = (keys.compare b a).swap := by
  unfold SortKeys.compare
  induction keys with
  | nil => rfl
  | cons key keys ih =>
      rw [List.foldr_cons, List.foldr_cons, Ordering.swap_then, ← ih]
      congr 1
      -- A key that is descending swaps once more, which makes no difference to swapping.
      rcases key with ⟨path, direction⟩
      have hswap := Value.sortOrder_swap (a.at? path) (b.at? path)
      cases direction with
      | ascending => exact hswap
      | descending => exact congrArg Ordering.swap hswap

/-- Keys that put some documents in a transitive order. -/
def TransitiveOn (keys : SortKeys) (docs : List Document) : Prop :=
  ∀ a ∈ docs, ∀ b ∈ docs, ∀ c ∈ docs,
    keys.compare a b ≠ .gt → keys.compare b c ≠ .gt → keys.compare a c ≠ .gt

/-- What the test of sorting says of documents that are not out of order. -/
theorem not_less_iff (keys : SortKeys) (a b : Document) :
    (keys.compare b a == .lt) = false ↔ keys.compare a b ≠ .gt := by
  rw [compare_swap keys a b]
  cases keys.compare b a with
  | _ => decide

theorem consistentOn_of_transitiveOn (keys : SortKeys) (docs : List Document)
    (h : keys.TransitiveOn docs) :
    Sorting.ConsistentOn (fun a b => keys.compare a b == .lt) docs := by
  constructor
  · intro a b hab
    have hlt : keys.compare a b = .lt := eq_of_beq hab
    refine (keys.not_less_iff a b).mpr ?_
    rw [hlt]
    decide
  · intro a b c hba hcb
    exact (keys.not_less_iff a c).mpr (h a a.2 b b.2 c c.2 ((keys.not_less_iff a b).mp hba)
      ((keys.not_less_iff b c).mp hcb))

/-- Documents can be sorted if the keys are transitive on them, or if they are
    few. -/
theorem exists_sort (keys : SortKeys) (docs : List Document)
    (h : keys.TransitiveOn docs ∨ docs.length ≤ 20) : ∃ sorted, keys.sort docs = some sorted := by
  rw [← Option.isSome_iff_exists]
  rcases h with htransitive | hlength
  · exact Sorting.isSome_sortBy_of_consistentOn (consistentOn_of_transitiveOn keys docs htransitive)
  · exact Sorting.isSome_sortBy_of_length_le _ hlength

-- Neither holds here: 9 is not equal to 1, but both are equal to what is not a number.
example :
    let values := [.int32 9, .int32 5, .double .nan] ++ List.replicate 7 (.int32 1) ++
      List.replicate 11 (.int32 3)
    SortKeys.sort [(["k"], .ascending)] (values.map fun v => [("k", v)]) = none := by
  decide

/-- To drop documents and to sort can change places. -/
theorem sort_filter (keys : SortKeys) (docs : List Document) (h : keys.TransitiveOn docs)
    (p : Document → Bool) : keys.sort (docs.filter p) = (keys.sort docs).map (List.filter p) :=
  Sorting.sortBy_filter_of_consistentOn (consistentOn_of_transitiveOn keys docs h) p

/-- To sort documents twice is to sort them once. -/
theorem sort_sort (keys : SortKeys) {docs sorted : List Document} (h : keys.TransitiveOn docs)
    (hsorted : keys.sort docs = some sorted) : keys.sort sorted = some sorted :=
  Sorting.sortBy_sortBy_of_consistentOn (consistentOn_of_transitiveOn keys docs h) hsorted

instance (keys : SortKeys) : Std.OrientedCmp keys.compare :=
  ⟨compare_swap keys _ _⟩

theorem compare_self (keys : SortKeys) (a : Document) : keys.compare a a = .eq :=
  Std.ReflCmp.compare_self

/-- Keys are transitive exactly where it does not matter to the order of
    documents which others are there. -/
theorem transitiveOn_iff (keys : SortKeys) (docs : List Document) :
    keys.TransitiveOn docs ↔
      ∀ stored : List Document, (∀ d ∈ stored, d ∈ docs) → ∀ p : Document → Bool,
        ∃ part whole, keys.sort (stored.filter p) = some part ∧ keys.sort stored = some whole ∧
          part.Sublist whole := by
  constructor
  · intro h stored hstored p
    have htransitive : keys.TransitiveOn stored := fun a ha b hb c hc =>
      h a (hstored a ha) b (hstored b hb) c (hstored c hc)
    rcases keys.exists_sort stored (.inl htransitive) with ⟨whole, hwhole⟩
    refine ⟨whole.filter p, whole, ?_, hwhole, List.filter_sublist⟩
    rw [sort_filter keys stored htransitive p, hwhole, Option.map_some]
  · -- Three documents show the converse. If the last is less than the first, these two
    -- change places without the one between them, and do not with it.
    classical
    intro h a ha b hb c hc hab hbc hac
    -- The three are different documents, as none is greater than itself.
    have hne : a ≠ b := by
      rintro rfl
      exact hbc hac
    have hne' : c ≠ b := by
      rintro rfl
      exact hab hac
    have hne'' : a ≠ c := by
      rintro rfl
      rw [compare_self] at hac
      cases hac
    have hstored : ∀ d ∈ [a, b, c], d ∈ docs := by
      intro d hd
      simp only [List.mem_cons, List.not_mem_nil, or_false] at hd
      rcases hd with rfl | rfl | rfl
      · exact ha
      · exact hb
      · exact hc
    have hfilter : [a, b, c].filter (fun d => decide (d ≠ b)) = [a, c] := by
      simp [hne, hne']
    -- Neighbours are in order, and a list of three is sorted by insertion.
    have hthree : keys.sort [a, b, c] = some [a, b, c] := by
      refine Sorting.sortBy_of_isChain _ (by decide : 3 ≤ 20) ?_
      simp only [List.isChain_cons_cons, List.isChain_singleton, and_true]
      exact ⟨(keys.not_less_iff a b).mpr hab, (keys.not_less_iff b c).mpr hbc⟩
    have htwo : keys.sort [a, c] = some [c, a] := by
      refine Sorting.sortBy_pair a c ?_
      rw [compare_swap keys c a, hac]
      rfl
    rcases h [a, b, c] hstored fun d => decide (d ≠ b) with ⟨part, whole, hpart, hwhole, hsublist⟩
    rw [hfilter, htwo, Option.some.injEq] at hpart
    rw [hthree, Option.some.injEq] at hwhole
    rw [← hpart, ← hwhole] at hsublist
    rcases List.sublist_cons_iff.mp hsublist with hrest | ⟨rest, heq, -⟩
    · have hmem : a ∈ [b, c] := hrest.subset (List.mem_cons_of_mem _ List.mem_cons_self)
      simp [hne, hne''] at hmem
    · exact hne'' (List.cons.inj heq).1.symm

end SortKeys

namespace Stage

/-- The stage that sorts by the keys of a document sorts, or reports that there
    is no order. -/
theorem run_sort (collection : String → List Document) {spec : Document} {keys : SortKeys}
    (h : SortKeys.ofDocument spec = .ok keys) (docs : List Document) :
    run collection (ofDocument [("$sort", .document spec)]) docs =
      (keys.sort docs).elim (.error .disorder) .ok := by
  have hstage : ofDocument [("$sort", .document spec)] = .sort keys := by
    simp [ofDocument, ofEntry, ofFields, ofExcept, h]
  rw [hstage, run]
  cases keys.sort docs with
  | none => rfl
  | some sorted => rfl

end Stage

end DocQuery
