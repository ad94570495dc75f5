import DocQuery.Proofs.Sorting.Stable
import Mathlib.Data.List.Basic
import Mathlib.Data.List.Chain
import Mathlib.Tactic.Common

/-!
# The Order of a Sorted List

Sorting by a consistent test succeeds and is stable, in each of the ways a list
is sorted: short lists in two halves, sorted stretches as runs, and all others
divided at a pivot. The proofs follow the definitions. Each of them carries the
elements that a part stands for (`Run.Holds`), so that the parts put together
stand for the list.

A test need not be consistent on all elements there could be. The elements of a
list can be taken as those that are known to be in it, sorted there, and sent
back (`sortBy_eq_attach`), so it is enough that the test is consistent on the
list. Where it is not, sorting may give up, but not on twenty elements or fewer.

A run is one of two things: a stretch that is sorted already, or a stretch that
is left for later. `Run.Holds` says in both cases which elements of the list it
stands for, so that runs can be joined without asking which it is. What is known
of the runs on the stack is the same, and `HoldBefore` says it of them in the
order in which they stand there. A sort of the runs then only has to put the
elements they stand for together again.

Dividing needs more than that. The element at the pivot goes left or right by
its place, whatever the test says of it, so `divide_eq` first shows that a
consistent test says the same. After that a list divided at a pivot is two
filters of it, and a class of equal elements lies on one side as a whole
(`Sorts.of_divided`). The floor is what lets a long stretch of equal elements be
finished at once: if it is not less than the pivot, no element is.

## Main definitions

* `Run.Holds`: A run holds some elements.
* `ConsistentOn`: A test that is consistent on the elements of a list.

## Theorems

* `sortsTo_sortShort`, `sortsTo_sortRuns`, `sortsTo_sortDivided`: The ways of
  sorting.
* `sortsTo_sortBy`: Sorting succeeds and is stable.
* `isSome_sortBy_of_consistentOn`: It succeeds if the test is consistent on the
  list.
* `sortBy_filter`, `sortBy_filter_of_consistentOn`: To drop elements and to sort
  can change places.
* `sortBy_places`, `sortBy_places_of_consistentOn`: Elements that are alike keep
  the order of their places.
* `sortBy_sortBy_of_consistentOn`: Sorting twice.
-/

namespace DocQuery

namespace Sorting

variable {α : Type} {less : α → α → Bool}

/-- Sorting two pairs that are in order is merging them. -/
theorem sortPairs_eq (hless : Consistent less) {a b c d : α} (hba : less b a = false)
    (hdc : less d c = false) : sortPairs less a b c d = mergeUp less [a, b] [c, d] := by
  -- The comparisons that are left out follow from the others.
  have hda : less d b = false → less d a = false := fun hdb => hless.trans a b d hba hdb
  have hcb : less d b = true → less c b = true := by
    intro hdb
    by_contra h
    rw [Bool.not_eq_true] at h
    rw [hless.trans b c d h hdc] at hdb
    exact Bool.false_ne_true hdb
  simp only [sortPairs, sortTwo, mergeUp_cons, mergeUp_nil_left, mergeUp_nil_right]
  -- By the two comparisons that choose the least and the greatest element.
  rcases hca : less c a with _ | _
  · rcases hdb : less d b with _ | _
    · rcases less c b with _ | _
      · rfl
      · rfl
    · simp [hdc, hcb hdb]
  · rcases hdb : less d b with _ | _
    · simp [hba, hda hdb]
    · rcases less d a with _ | _
      · rfl
      · rfl

theorem sorts_pair (hless : Consistent less) {a b : α} (h : less b a = true) :
    Sorts less [a, b] [b, a] := by
  have hs := sorts_insertionSort hless [a, b]
  have heq : insertionSort less [a, b] = [b, a] := by
    simp only [insertionSort, extendSorted, List.reverse_nil, List.foldl_cons, List.foldl_nil,
      insertSorted, h, if_true, List.reverse_cons, List.nil_append, List.cons_append]
  rwa [heq] at hs

/-- Four elements in two sorted pairs are sorted like two lists that are merged. -/
theorem sorts_sortPairs (hless : Consistent less) {ps qs : List α} {a b c d : α}
    (hl : Sorts less ps [a, b]) (hr : Sorts less qs [c, d]) :
    Sorts less (ps ++ qs) (sortPairs less a b c d) := by
  have hba := (List.pairwise_cons.mp hl.sorted).1 b List.mem_cons_self
  have hdc := (List.pairwise_cons.mp hr.sorted).1 d List.mem_cons_self
  rw [sortPairs_eq hless hba hdc]
  exact sorts_mergeUp hless hl hr

/-- Each pair is in order, or is put in order first. -/
theorem sorts_sortFour (hless : Consistent less) (a b c d : α) :
    Sorts less [a, b, c, d] (sortFour less a b c d) := by
  -- A pair in order stays, and one that is not changes places.
  have hkeep : ∀ {x y : α}, less y x = false → Sorts less [x, y] [x, y] := fun h =>
    Sorts.of_sorted (List.pairwise_pair.mpr h)
  rw [sortFour]
  split
  · rename_i hba hdc
    exact sorts_sortPairs hless (hkeep hba) (hkeep hdc)
  · rename_i hba hdc
    exact sorts_sortPairs hless (hkeep hba) (sorts_pair hless hdc)
  · rename_i hba hdc
    exact sorts_sortPairs hless (sorts_pair hless hba) (hkeep hdc)
  · rename_i hba hdc
    exact sorts_sortPairs hless (sorts_pair hless hba) (sorts_pair hless hdc)

/-- Four elements that are sorted at once make a sorted list, and the others are
    inserted into it. -/
theorem sorts_sortHalf (hless : Consistent less) (four : Bool) (xs : List α) :
    Sorts less xs (sortHalf less four xs) := by
  fun_cases sortHalf less four xs with
  | case1 a b c d xs =>
      exact sorts_extendSorted hless (sorts_sortFour hless a b c d) xs
  | case2 => exact sorts_insertionSort hless xs

/-- Two sorted halves are merged, which succeeds for a consistent test. A list
    too short to have halves is sorted as it is. -/
theorem sortsTo_sortShort (hless : Consistent less) (xs : List α) :
    SortsTo less xs (sortShort less xs) := by
  rw [sortShort]
  split
  · rename_i h
    refine ⟨xs, rfl, Sorts.of_sorted ?_⟩
    rcases xs with _ | ⟨x, _ | ⟨y, xs⟩⟩
    · exact .nil
    · exact List.pairwise_singleton _ x
    · rw [List.length_cons, List.length_cons] at h
      omega
  · -- The halves are sorted apart and are the list when they are put together.
    have h := sortsTo_mergeHalves hless (sorts_sortHalf hless (8 ≤ xs.length)
      (xs.take (xs.length / 2))) (sorts_sortHalf hless (8 ≤ xs.length) (xs.drop (xs.length / 2)))
    rw [List.take_append_drop] at h
    exact h

/-- A stretch of which each element relates to the one before it. -/
theorem pairwise_countChained (related : α → α → Bool)
    (htrans : ∀ a b c, related b a = true → related c b = true → related c a = true)
    (x : α) (ys : List α) :
    ((x :: ys).take (countChained related x ys + 1)).Pairwise fun a b => related b a = true := by
  induction ys generalizing x with
  | nil => exact List.pairwise_singleton _ x
  | cons y ys ih =>
      rw [countChained]
      split
      · rename_i hyx
        have hy := ih y
        rw [List.take_succ_cons] at hy ⊢
        refine List.pairwise_cons.mpr ⟨fun b hb => ?_, hy⟩
        -- The element next to it was tested, and all others follow by transitivity.
        rcases List.mem_cons.mp hb with rfl | hb
        · exact hyx
        · exact htrans x y b hyx ((List.pairwise_cons.mp hy).1 b hb)
      · exact List.pairwise_singleton _ x

/-- The stretch found at the front is sorted if it does not go down. -/
theorem sorted_sortedFront (hless : Consistent less) (xs : List α)
    (h : (sortedFront less xs).2 = false) :
    (xs.take (sortedFront less xs).1).Pairwise fun a b => less b a = false := by
  rcases xs with _ | ⟨x, _ | ⟨y, xs⟩⟩
  · exact .nil
  · exact List.pairwise_singleton _ x
  · rw [sortedFront] at h ⊢
    split at h
    · exact Bool.noConfusion h
    · rename_i hyx
      rw [if_neg hyx]
      -- Only neighbours have been compared, and consistency carries that to all pairs.
      refine (pairwise_countChained (fun b a => !less b a) ?_ x (y :: xs)).imp ?_
      · intro a b c hba hcb
        rw [Bool.not_eq_true'] at hba hcb ⊢
        exact hless.trans a b c hba hcb
      · intro a b hab
        rwa [Bool.not_eq_true'] at hab

/-- If it does go down, it does so strictly. -/
theorem downward_sortedFront (hless : Consistent less) (xs : List α)
    (h : (sortedFront less xs).2 = true) :
    (xs.take (sortedFront less xs).1).Pairwise fun a b => less b a = true := by
  rcases xs with _ | ⟨x, _ | ⟨y, xs⟩⟩
  · exact .nil
  · exact List.pairwise_singleton _ x
  · rw [sortedFront] at h ⊢
    split at h
    · rename_i hyx
      rw [if_pos hyx]
      refine pairwise_countChained less ?_ x (y :: xs)
      intro a b c hba hcb
      exact hless.less_of_less hcb (hless.asymm b a hba)
    · exact absurd h Bool.false_ne_true

/-- A stretch sorted strictly downward is sorted by turning it around. -/
theorem sorts_reverse (hless : Consistent less) {xs : List α}
    (h : xs.Pairwise fun a b => less b a = true) : Sorts less xs xs.reverse := by
  refine ⟨List.pairwise_reverse.mpr (h.imp fun hba => hless.asymm _ _ hba), fun v => ?_⟩
  have hpair := h.filter (alike less v)
  have hmem : ∀ x ∈ xs.filter (alike less v), alike less v x = true := fun x hx =>
    (List.mem_filter.mp hx).2
  -- A class turned around has to be that class.
  rw [List.filter_reverse]
  -- No two of the elements are alike, so there is one of a class at most.
  generalize xs.filter (alike less v) = ys at *
  rcases ys with _ | ⟨a, _ | ⟨b, rest⟩⟩
  · rfl
  · rfl
  · have hba := (List.pairwise_cons.mp hpair).1 b List.mem_cons_self
    have hva := hless.not_alike_of_less hba (hmem b (List.mem_cons_of_mem a List.mem_cons_self))
    rw [hmem a List.mem_cons_self] at hva
    exact absurd hva.symm Bool.false_ne_true

namespace Run

/-- A run holds some elements: it is those elements sorted, or those elements as
    they stand. -/
def Holds (less : α → α → Bool) (r : Run α) (xs : List α) : Prop :=
  if r.sorted then Sorts less xs r.items else r.items = xs

/-- The first run holds the elements that are cut off the list for it. -/
theorem holds_first (hless : Consistent less) (least : Nat) (now : Bool) (xs : List α) :
    ∃ run rest ys, first less least now xs = some (run, rest) ∧ run.Holds less ys ∧
      ys ++ rest = xs := by
  have hup := sorted_sortedFront hless xs
  have hdown := downward_sortedFront hless xs
  rw [first]
  -- What the stretch is like has been said, so its definition is not needed any more.
  generalize sortedFront less xs = front at *
  rcases front with ⟨count, downward⟩
  simp only at hup hdown ⊢
  split
  · refine ⟨_, _, xs.take count, rfl, ?_, List.take_append_drop count xs⟩
    rw [Holds, if_pos rfl]
    -- A stretch that goes down is strict, so turning it around is stable.
    rcases downward with _ | _
    · exact Sorts.of_sorted (hup rfl)
    · exact sorts_reverse hless (hdown rfl)
  · split
    · rcases sortsTo_sortShort hless (xs.take shortLength) with ⟨items, hitems, hsorts⟩
      refine ⟨⟨items, true⟩, _, xs.take shortLength, by rw [hitems, Option.map_some], ?_,
        List.take_append_drop shortLength xs⟩
      rw [Holds, if_pos rfl]
      exact hsorts
    · -- What is left for later holds its elements as they stand.
      exact ⟨_, _, xs.take least, rfl, rfl, List.take_append_drop least xs⟩

/-- The elements that the runs hold are the list, cut where the runs meet. The
    induction is on the number of runs that are still allowed. -/
theorem holds_ofListIn (hless : Consistent less) (least : Nat) (now : Bool) (count : Nat)
    (xs : List α) :
    ∃ runs yss, ofListIn less least now count xs = some runs ∧
      List.Forall₂ (Holds less) runs yss ∧ yss.flatten = xs := by
  induction count generalizing xs with
  | zero =>
      rw [ofListIn]
      split
      · rename_i h
        exact ⟨[], [], rfl, .nil, (List.isEmpty_iff.mp h).symm⟩
      · rcases sortsTo_sortShort hless xs with ⟨items, hitems, hsorts⟩
        refine ⟨[⟨items, true⟩], [xs], by rw [hitems, Option.map_some], .cons ?_ .nil,
          List.flatten_singleton⟩
        rw [Holds, if_pos rfl]
        exact hsorts
  | succ count ih =>
      rw [ofListIn]
      split
      · rename_i h
        exact ⟨[], [], rfl, .nil, (List.isEmpty_iff.mp h).symm⟩
      · -- The first run is cut off, and the rest has its runs by induction.
        rcases holds_first hless least now xs with ⟨run, rest, ys, hfirst, hys, happ⟩
        rcases ih rest with ⟨runs, yss, hruns, hyss, hflat⟩
        refine ⟨run :: runs, ys :: yss, ?_, .cons hys hyss, by rw [List.flatten_cons, hflat, happ]⟩
        simp only [hfirst, Option.bind_eq_bind, Option.bind_some, hruns, Option.pure_def]

variable {sort : List α → Option (List α)}

/-- A run is brought in order by the sort it was left for. -/
theorem sortsTo_toSorted (hsort : ∀ xs, SortsTo less xs (sort xs)) {r : Run α} {xs : List α}
    (h : r.Holds less xs) : SortsTo less xs (r.toSorted sort) := by
  rw [Holds] at h
  rw [toSorted]
  split at h
  · rename_i hr
    rw [if_pos hr]
    exact ⟨r.items, rfl, h⟩
  · rename_i hr
    rw [if_neg hr, h]
    exact hsort xs

/-- Neighbours joined hold the elements of both, one after the other. If neither
    is sorted they are not merged, so what is left for later may grow. -/
theorem holds_join (hless : Consistent less) (hsort : ∀ xs, SortsTo less xs (sort xs))
    {left right : Run α} {xs ys : List α} (hl : left.Holds less xs) (hr : right.Holds less ys) :
    ∃ joined, left.join less sort right = some joined ∧ joined.Holds less (xs ++ ys) := by
  rw [join]
  split
  · rcases sortsTo_toSorted hsort hl with ⟨ls, hls, hleft⟩
    rcases sortsTo_toSorted hsort hr with ⟨rs, hrs, hright⟩
    refine ⟨⟨mergeShorter less ls rs, true⟩, by rw [hls, hrs]; rfl, ?_⟩
    rw [Holds, if_pos rfl]
    exact sorts_mergeShorter hless hleft hright
  · -- Both are left for later, and so are they together.
    rename_i h
    rw [Bool.or_eq_true, not_or] at h
    rw [Holds, if_neg h.1] at hl
    rw [Holds, if_neg h.2] at hr
    refine ⟨_, rfl, ?_⟩
    rw [Holds, if_neg Bool.false_ne_true, hl, hr]

end Run

/-- Runs that stand last first hold some elements. -/
inductive HoldBefore (less : α → α → Bool) : List (Run α × Nat) → List α → Prop
  | nil : HoldBefore less [] []
  | cons {run : Run α} {depth : Nat} {runs : List (Run α × Nat)} {xs ys : List α}
      (hrun : run.Holds less ys) (hruns : HoldBefore less runs xs) :
      HoldBefore less ((run, depth) :: runs) (xs ++ ys)

variable {sort : List α → Option (List α)}

/-- Joining a run with those before it moves the cut between what is on the
    stack and what is not, and the elements stay where they are. -/
theorem holds_collapse (hless : Consistent less) (hsort : ∀ xs, SortsTo less xs (sort xs))
    (depth : Nat) {runs : List (Run α × Nat)} {run : Run α} {xs ys : List α}
    (hruns : HoldBefore less runs xs) (hrun : run.Holds less ys) :
    ∃ earlier joined xs' ys', collapse less sort depth runs run = some (earlier, joined) ∧
      HoldBefore less earlier xs' ∧ joined.Holds less ys' ∧ xs' ++ ys' = xs ++ ys := by
  induction hruns generalizing run ys with
  | nil => exact ⟨[], run, [], ys, rfl, .nil, hrun, rfl⟩
  | cons hleft hruns ih =>
      rw [collapse]
      split
      · -- The run before it is joined, and then the ones before that.
        rcases Run.holds_join hless hsort hleft hrun with ⟨both, hboth, hholds⟩
        rcases ih hholds with ⟨earlier, joined, xs', ys', hcollapse, hb, hr, happ⟩
        refine ⟨earlier, joined, xs', ys', ?_, hb, hr, by rw [happ, List.append_assoc]⟩
        rw [hboth, Option.bind_some, hcollapse]
      · exact ⟨_, run, _, ys, rfl, .cons hleft hruns, hrun, rfl⟩

/-- The induction is on the runs to come. What is on the stack, the run at hand
    and the runs to come hold the list from the left to the right, and at the
    end only one run is left. -/
theorem holds_joinRuns (hless : Consistent less) (hsort : ∀ xs, SortsTo less xs (sort xs)) (n : Nat)
    {earlier : List (Run α × Nat)} {run : Run α} (stop : Nat) {runs : List (Run α)}
    {xs ys : List α} {yss : List (List α)} (hearlier : HoldBefore less earlier xs)
    (hrun : run.Holds less ys) (hruns : List.Forall₂ (Run.Holds less) runs yss) :
    ∃ joined, joinRuns less sort n earlier run stop runs = some joined ∧
      joined.Holds less (xs ++ ys ++ yss.flatten) := by
  induction hruns generalizing earlier run stop xs ys with
  | nil =>
      rcases holds_collapse hless hsort 0 hearlier hrun with
        ⟨rest, joined, xs', ys', hcollapse, hb, hr, happ⟩
      -- At depth zero the stack is empty, so the last run holds everything.
      rw [collapse_zero hcollapse] at hb
      cases hb
      refine ⟨joined, by rw [joinRuns, hcollapse]; rfl, ?_⟩
      rw [List.flatten_nil, List.append_nil, ← happ]
      exact hr
  | cons hnext hruns ih =>
      rw [List.flatten_cons, ← List.append_assoc]
      rcases holds_collapse hless hsort _ hearlier hrun with
        ⟨rest, joined, xs', ys', hcollapse, hb, hr, happ⟩
      rcases ih _ (.cons hr hb) hnext with ⟨last, hlast, hholds⟩
      refine ⟨last, ?_, by rw [← happ]; exact hholds⟩
      rw [joinRuns]
      exact (congrArg (Option.bind · _) hcollapse).trans hlast

/-- Sorting by runs is stable if what is left for later is sorted stably. -/
theorem sortsTo_sortRuns (hless : Consistent less) (hsort : ∀ xs, SortsTo less xs (sort xs))
    (now : Bool) (xs : List α) : SortsTo less xs (sortRuns less sort now xs) := by
  rcases Run.holds_ofListIn hless (runLength xs.length) now xs.length xs with
    ⟨runs, yss, hruns, hyss, hflat⟩
  rw [← Run.ofList] at hruns
  rw [sortRuns, hruns, Option.bind_eq_bind, Option.bind_some]
  cases hyss with
  | nil =>
      refine ⟨xs, rfl, ?_⟩
      rw [← hflat]
      exact Sorts.of_sorted .nil
  | @cons run ys runs yss hrun hrest =>
      rcases holds_joinRuns hless hsort xs.length run.items.length .nil hrun hrest with
        ⟨joined, hjoined, hholds⟩
      rw [List.nil_append, ← List.flatten_cons, hflat] at hholds
      simp only [hjoined, Option.bind_eq_bind, Option.bind_some]
      exact Run.sortsTo_toSorted hsort hholds

/-- A list divided by a test that the pivot passes as it is told to. -/
theorem divide_eq (goesLeft : α → Bool) {place : Nat} {xs : List α} {pivot : α}
    (h : xs[place]? = some pivot) :
    divide goesLeft (goesLeft pivot) place xs =
      (xs.filter goesLeft, xs.filter fun x => !goesLeft x) := by
  -- The mark at the place of the pivot is what the test says of the pivot.
  have hmarked : (xs.zipIdx.map fun p =>
      (p.1, if p.2 = place then goesLeft pivot else goesLeft p.1)) =
        xs.map fun x => (x, goesLeft x) := by
    have hfst : xs = xs.zipIdx.map Prod.fst := (List.zipIdx_map_fst 0 xs).symm
    conv => rhs; rw [hfst, List.map_map]
    refine List.map_congr_left fun p hp => ?_
    rw [List.mem_zipIdx_iff_getElem?] at hp
    split
    · rename_i hplace
      rw [hplace, h] at hp
      rw [Option.some.inj hp]
      rfl
    · rfl
  simp only [divide, hmarked, List.filter_map, List.map_map]
  exact Prod.ext (List.map_id _) (List.map_id _)

/-- Two sorted lists, with nothing in the second less than anything in the
    first, are sorted together. -/
theorem Sorts.append {xs ys us vs : List α} (hlow : Sorts less xs us) (hhigh : Sorts less ys vs)
    (h : ∀ u ∈ us, ∀ v ∈ vs, less v u = false) : Sorts less (xs ++ ys) (us ++ vs) := by
  refine ⟨List.pairwise_append.mpr ⟨hlow.sorted, hhigh.sorted, h⟩, fun v => ?_⟩
  rw [List.filter_append, List.filter_append, hlow.classes v, hhigh.classes v]

/-- Elements divided by a test that is the same for elements that are alike are
    the same elements of each class. -/
theorem Sorts.of_divided {p : α → Bool} {xs ys : List α}
    (hp : ∀ v x, alike less v x = true → p x = p v)
    (h : Sorts less (xs.filter p ++ xs.filter fun x => !p x) ys) : Sorts less xs ys := by
  refine ⟨h.sorted, fun v => ?_⟩
  -- A class goes to one side as a whole, so its elements keep their places.
  have hclass : ∀ x ∈ xs.filter (alike less v), p x = p v := fun x hx =>
    hp v x (List.mem_filter.mp hx).2
  rw [h.classes v, List.filter_append, List.filter_comm, List.filter_comm (q := fun x => !p x)]
  generalize xs.filter (alike less v) = zs at *
  rcases hv : p v with _ | _
  · have hnone : zs.filter p = [] := by
      rw [List.filter_eq_nil_iff]
      intro x hx
      rw [hclass x hx, hv]
      exact Bool.false_ne_true
    have hall : zs.filter (fun x => !p x) = zs := by
      rw [List.filter_eq_self]
      intro x hx
      rw [hclass x hx, hv]
      rfl
    rw [hnone, hall, List.nil_append]
  · have hall : zs.filter p = zs := by
      rw [List.filter_eq_self]
      intro x hx
      rw [hclass x hx, hv]
    have hnone : zs.filter (fun x => !p x) = [] := by
      rw [List.filter_eq_nil_iff]
      intro x hx
      rw [hclass x hx, hv]
      exact Bool.false_ne_true
    rw [hnone, hall, List.append_nil]

namespace Consistent

/-- Elements that are alike are less than the same elements. -/
theorem less_left_congr (h : Consistent less) {v x : α} (a : α) (hvx : alike less v x = true) :
    less x a = less v a := by
  rw [alike_iff] at hvx
  rcases hva : less v a with _ | _
  · exact h.trans a v x hva hvx.2
  · by_contra hxa
    rw [Bool.not_eq_true] at hxa
    rw [h.trans a x v hxa hvx.1] at hva
    exact Bool.false_ne_true hva

/-- The same elements are less than those that are alike. -/
theorem less_right_congr (h : Consistent less) {v x : α} (a : α) (hvx : alike less v x = true) :
    less a x = less a v :=
  h.flip.less_left_congr a (by rwa [alike_flip])

end Consistent

/-- No element is less than a bound. -/
def Above (less : α → α → Bool) (floor : Option α) (xs : List α) : Prop :=
  ∀ f ∈ floor, ∀ x ∈ xs, less x f = false

/-- If nothing is less than the pivot, what is equal to it comes first. -/
theorem sorts_equal_append (hless : Consistent less) {pivot : α} {xs vs : List α}
    (hnone : ∀ x ∈ xs, less x pivot = false)
    (hvs : Sorts less (xs.filter fun x => !!less pivot x) vs) :
    Sorts less xs ((xs.filter fun x => !less pivot x) ++ vs) := by
  -- What is not greater than the pivot is not less either, so it is equal to it.
  have hequal : ∀ x ∈ xs.filter fun x => !less pivot x, less pivot x = false ∧ x ∈ xs := by
    intro x hx
    rw [List.mem_filter, Bool.not_eq_true'] at hx
    exact ⟨hx.2, hx.1⟩
  refine Sorts.of_divided (p := fun x => !less pivot x) ?_ (Sorts.append ?_ hvs ?_)
  · intro v x hvx
    exact congrArg Bool.not (hless.less_right_congr pivot hvx)
  · -- Those that are equal to the pivot are equal to each other, so they stay as they are.
    refine Sorts.of_sorted (List.pairwise_of_forall_mem_list ?_)
    intro a ha b hb
    exact hless.trans a pivot b (hequal a ha).1 (hnone b (hequal b hb).2)
  · intro u hu v hv
    have hv' := (Sorts.mem_iff hless hvs v).mp hv
    rw [List.mem_filter, Bool.not_not] at hv'
    exact hless.trans u pivot v (hequal u hu).1 (hless.asymm pivot v hv'.2)

/-- What is less than the pivot comes before what is not. -/
theorem sorts_low_append (hless : Consistent less) {pivot : α} {xs us vs : List α}
    (hus : Sorts less (xs.filter fun x => less x pivot) us)
    (hvs : Sorts less (xs.filter fun x => !less x pivot) vs) : Sorts less xs (us ++ vs) := by
  refine Sorts.of_divided (p := fun x => less x pivot) ?_ (hus.append hvs ?_)
  · intro v x hvx
    exact hless.less_left_congr pivot hvx
  · intro u hu v hv
    -- Both parts are sorted, which keeps their elements.
    have hu' := (Sorts.mem_iff hless hus u).mp hu
    have hv' := (Sorts.mem_iff hless hvs v).mp hv
    rw [List.mem_filter] at hu' hv'
    rw [Bool.not_eq_true'] at hv'
    exact hless.trans u pivot v (hless.asymm u pivot hu'.2) hv'.2

/-- The induction is on how often a list may still be divided. The hypothesis on
    the floor is the invariant: it is what makes the case in which nothing is
    sorted below the pivot a correct one. -/
theorem sortsTo_sortDivided (hless : Consistent less) (times : Nat) (floor : Option α)
    (xs : List α) (habove : Above less floor xs) :
    SortsTo less xs (sortDivided less times floor xs) := by
  induction times generalizing floor xs with
  | zero =>
      rw [sortDivided]
      split
      · exact sortsTo_sortShort hless xs
      · exact sortsTo_sortRuns hless (sortsTo_sortShort hless) true xs
  | succ times ih =>
      rw [sortDivided]
      split
      · exact sortsTo_sortShort hless xs
      · simp only
        split
        · exact sortsTo_sortShort hless xs
        · rename_i pivot hpivot
          have hlow := divide_eq (fun x => less x pivot) hpivot
          have hequal := divide_eq (fun x => !less pivot x) hpivot
          simp only [hless.irrefl, Bool.not_false] at hlow hequal
          rw [hlow, hequal]
          split
          · rename_i h
            -- The floor is not less than the pivot, or the lower part is empty.
            have hnone : ∀ x ∈ xs, less x pivot = false := by
              rw [Bool.or_eq_true, Option.any_eq_true, List.isEmpty_iff,
                List.filter_eq_nil_iff] at h
              rcases h with ⟨f, hf, hfp⟩ | h
              · rw [Bool.not_eq_true'] at hfp
                exact fun x hx => hless.trans pivot f x hfp (habove f hf x hx)
              · exact fun x hx => Bool.not_eq_true _ ▸ h x hx
            rcases ih none (xs.filter fun x => !!less pivot x) (fun f hf => by cases hf) with
              ⟨greater, hgreater, hsorts⟩
            exact ⟨_, by rw [hgreater, Option.map_some], sorts_equal_append hless hnone hsorts⟩
          · -- The lower part keeps the floor, and the pivot is the floor of the upper one.
            rcases ih floor (xs.filter fun x => less x pivot)
              (fun f hf x hx => habove f hf x (List.mem_of_mem_filter hx)) with
              ⟨lower, hlower, hlowerSorts⟩
            have hupperAbove : Above less (some pivot) (xs.filter fun x => !less x pivot) := by
              intro f hf x hx
              cases hf
              rw [List.mem_filter, Bool.not_eq_true'] at hx
              exact hx.2
            rcases ih (some pivot) _ hupperAbove with ⟨upper, hupper, hupperSorts⟩
            exact ⟨lower ++ upper, by rw [hlower, hupper]; rfl,
              sorts_low_append hless hlowerSorts hupperSorts⟩

/-- Sorting by a consistent test succeeds, and is stable. -/
theorem sortsTo_sortBy (hless : Consistent less) (xs : List α) :
    SortsTo less xs (sortBy less xs) := by
  rw [sortBy]
  split
  · exact ⟨_, rfl, sorts_insertionSort hless xs⟩
  · refine sortsTo_sortRuns hless (fun ys => ?_) _ xs
    exact sortsTo_sortDivided hless _ none ys fun f hf => by cases hf

/-- Elements that are not less than the one before them are inserted where they
    stand. -/
theorem foldl_insertSorted_of_isChain (xs ys : List α)
    (h : (ys.reverse ++ xs).IsChain fun a b => less b a = false) :
    xs.foldl (fun ys x => insertSorted less x ys) ys = xs.reverse ++ ys := by
  induction xs generalizing ys with
  | nil => rfl
  | cons x xs ih =>
      have hx : insertSorted less x ys = x :: ys := by
        rcases ys with _ | ⟨y, ys⟩
        · rfl
        · rw [List.reverse_cons, List.append_assoc, List.singleton_append] at h
          rw [insertSorted, (List.isChain_append_cons_cons.mp h).2.1]
          rfl
      rw [List.foldl_cons, hx, ih]
      · rw [List.reverse_cons, List.append_assoc, List.singleton_append]
      · rw [List.reverse_cons, List.append_assoc, List.singleton_append]
        exact h

/-- A short list whose neighbours are in order stays as it is, whether the test
    is consistent or not. -/
theorem sortBy_of_isChain (xs : List α) (hlength : xs.length ≤ 20)
    (h : xs.IsChain fun a b => less b a = false) : sortBy less xs = some xs := by
  rw [sortBy, if_pos hlength, insertionSort, extendSorted, List.reverse_nil,
    foldl_insertSorted_of_isChain xs [] h, List.append_nil, List.reverse_reverse]

/-- Two elements out of order change places. -/
theorem sortBy_pair (a b : α) (h : less b a = true) : sortBy less [a, b] = some [b, a] := by
  have hlength : [a, b].length ≤ 20 := Nat.le_of_ble_eq_true rfl
  rw [sortBy, if_pos hlength, insertionSort, extendSorted, List.reverse_nil,
    List.foldl_cons, List.foldl_cons, insertSorted, insertSorted, h]
  rfl

/-- To drop elements and to sort can change places. -/
theorem sortBy_filter (hless : Consistent less) (p : α → Bool) (xs : List α) :
    sortBy less (xs.filter p) = (sortBy less xs).map (List.filter p) := by
  rcases sortsTo_sortBy hless xs with ⟨ys, hys, hsorts⟩
  rcases sortsTo_sortBy hless (xs.filter p) with ⟨zs, hzs, hsorts'⟩
  -- The sorted list with elements dropped is the shorter list sorted, and there is only
  -- one.
  rw [hys, hzs, Option.map_some, Sorts.unique hless hsorts' (hsorts.filter p)]

/-- A test that is consistent on the elements of a list. -/
def ConsistentOn (less : α → α → Bool) (xs : List α) : Prop :=
  Consistent (pulled (Subtype.val : {x // x ∈ xs} → α) less)

/-- A list is sorted as its elements are that are known to be in it. -/
theorem sortBy_eq_attach (less : α → α → Bool) (xs : List α) :
    sortBy less xs = (sortBy (pulled Subtype.val less) xs.attach).map (List.map Subtype.val) := by
  rw [← sortBy_map, List.attach_map_subtype_val]

/-- The test has to be consistent on the elements of the list only. -/
theorem isSome_sortBy_of_consistentOn {xs : List α} (h : ConsistentOn less xs) :
    (sortBy less xs).isSome = true := by
  rcases sortsTo_sortBy h xs.attach with ⟨ys, hys, -⟩
  rw [sortBy_eq_attach, hys]
  rfl

/-- The list is taken as its elements that are known to be in it, and so is what
    the filter leaves. Both are images, and the test is consistent on those. -/
theorem sortBy_filter_of_consistentOn {xs : List α} (h : ConsistentOn less xs) (p : α → Bool) :
    sortBy less (xs.filter p) = (sortBy less xs).map (List.filter p) := by
  have hall : xs = xs.attach.map Subtype.val := (List.attach_map_subtype_val xs).symm
  have hsome : xs.filter p = (xs.attach.filter (p ∘ Subtype.val)).map Subtype.val := by
    rw [← List.filter_map, ← hall]
  rw [hsome, sortBy_map, sortBy_filter h, sortBy_eq_attach less xs, Option.map_map, Option.map_map]
  exact congrArg (Option.map · _) (funext fun ys => List.filter_map.symm)

/-- The elements of a sorted list with the places they had. Of those that are
    alike, the places are still in order. -/
theorem sortBy_places (hless : Consistent less) (xs : List α) :
    ∃ placed : List (α × Nat), placed.Perm xs.zipIdx ∧
      sortBy less xs = some (placed.map Prod.fst) ∧
      placed.Pairwise fun a b =>
        less a.1 b.1 = true ∨ alike less a.1 b.1 = true ∧ a.2 < b.2 := by
  have hpulled : Consistent (pulled (Prod.fst : α × Nat → α) less) :=
    ⟨fun a b => hless.asymm a.1 b.1, fun a b c => hless.trans a.1 b.1 c.1⟩
  have hplaces : xs.zipIdx.Pairwise fun a b => a.2 < b.2 := by
    rw [← List.pairwise_map (f := Prod.snd), List.zipIdx_map_snd]
    exact List.pairwise_lt_range' 1
  -- The elements are sorted with their places, by a test that does not look at these.
  rcases sortsTo_sortBy hpulled xs.zipIdx with ⟨placed, hplaced, hsorts⟩
  refine ⟨placed, perm_sortBy _ _ _ hplaced, ?_, hsorts.pairwise hpulled hplaces⟩
  have hmap := sortBy_map Prod.fst less xs.zipIdx
  rwa [hplaced, Option.map_some, List.zipIdx_map_fst] at hmap

/-- The places are those in the list, so nothing changes by taking its elements
    as known to be in it. -/
theorem sortBy_places_of_consistentOn {xs : List α} (h : ConsistentOn less xs) :
    ∃ placed : List (α × Nat), placed.Perm xs.zipIdx ∧
      sortBy less xs = some (placed.map Prod.fst) ∧
      placed.Pairwise fun a b =>
        less a.1 b.1 = true ∨ alike less a.1 b.1 = true ∧ a.2 < b.2 := by
  rcases sortBy_places h xs.attach with ⟨placed, hperm, hsorted, hpairwise⟩
  refine ⟨placed.map (Prod.map Subtype.val id), ?_, ?_, List.pairwise_map.mpr hpairwise⟩
  · have hall := hperm.map (Prod.map Subtype.val id)
    rwa [← List.zipIdx_map, List.attach_map_subtype_val] at hall
  · rw [sortBy_eq_attach, hsorted, Option.map_some, List.map_map, List.map_map]
    rfl

/-- To sort a sorted list changes nothing. -/
theorem sortBy_sortBy_of_consistentOn {xs ys : List α} (h : ConsistentOn less xs)
    (hys : sortBy less xs = some ys) : sortBy less ys = some ys := by
  rcases sortsTo_sortBy h xs.attach with ⟨zs, hzs, hsorts⟩
  rcases sortsTo_sortBy h zs with ⟨us, hus, hsorts'⟩
  -- A sorted list is sorted from itself, so it is what sorting makes of it.
  have huz : us = zs := Sorts.unique h hsorts' (Sorts.of_sorted hsorts.sorted)
  rw [sortBy_eq_attach, hzs, Option.map_some] at hys
  rw [← Option.some.inj hys, sortBy_map, hus, huz, Option.map_some]

end Sorting

end DocQuery
