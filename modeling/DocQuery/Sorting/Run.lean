import DocQuery.Sorting.Small

/-!
# Sorting by Runs

A list is divided into runs, which are merged. A run is a stretch that is
already sorted, upward or strictly downward, if that is long enough. Otherwise
it is a stretch of a fixed length, which is sorted at once or left for later;
two neighbours that are left for later become one that is.

Which neighbours are merged first depends on where they meet. Each meeting point
has a depth in a balanced tree over the whole list, and deeper ones go first.
Where a short list cannot be sorted, there is no result.

## Main definitions

* `Run`: A stretch of a list.
* `Run.ofList`: The runs of a list.
* `meetingDepth`: The depth of a meeting point.
* `sortRuns`: Sort a list by its runs.
* `Permutes`: A way of sorting that loses and adds nothing.

## Theorems

* `perm_join`, `permutes_sortRuns`: Nothing is lost or added.
-/

namespace DocQuery

namespace Sorting

variable {α : Type}

/-- A stretch of a list, which is sorted or not. -/
structure Run (α : Type) where
  items : List α
  sorted : Bool

/-- The longest list that is sorted as a short one. -/
def shortLength : Nat := 32

/-- The number of elements, at the front of a list after `x`, of which each
    relates in a given way to the one before it. -/
def countChained (related : α → α → Bool) (x : α) : List α → Nat
  | [] => 0
  | y :: ys => if related y x then countChained related y ys + 1 else 0

/-- The length of the longest sorted stretch at the front of a list, and
    whether it is sorted downward. -/
def sortedFront (less : α → α → Bool) : List α → Nat × Bool
  | x :: y :: ys =>
    if less y x then (countChained less x (y :: ys) + 1, true)
    else (countChained (fun b a => !less b a) x (y :: ys) + 1, false)
  | xs => (xs.length, false)

/-- About the square root of a number, by one step from a power of two. -/
def nearRoot (n : Nat) : Nat :=
  let shift := (1 + Nat.log2 (n ||| 1)) / 2
  ((1 <<< shift) + (n >>> shift)) / 2

/-- How long a sorted stretch of a list of a given length has to be to be a
    run. -/
def runLength (n : Nat) : Nat :=
  if n ≤ 4096 then min (n - n / 2) 64 else nearRoot n

namespace Run

/-- The run at the front of a list, which is not shorter than `least` if there
    are so many elements, and what follows. If `now`, it is sorted at once. -/
def first (less : α → α → Bool) (least : Nat) (now : Bool) (xs : List α) :
    Option (Run α × List α) :=
  let (count, downward) := sortedFront less xs
  if least ≤ count then
    let items := xs.take count
    some (⟨if downward then items.reverse else items, true⟩, xs.drop count)
  else if now then
    (sortShort less (xs.take shortLength)).map fun items => (⟨items, true⟩, xs.drop shortLength)
  else some (⟨xs.take least, false⟩, xs.drop least)

/-- The runs of a list, which are no more than `count`. -/
def ofListIn (less : α → α → Bool) (least : Nat) (now : Bool) :
    Nat → List α → Option (List (Run α))
  | 0, xs => if xs.isEmpty then some [] else (sortShort less xs).map fun items => [⟨items, true⟩]
  | count + 1, xs =>
    if xs.isEmpty then some []
    else do
      let (run, rest) ← first less least now xs
      let runs ← ofListIn less least now count rest
      return run :: runs

/-- The runs of a list. -/
def ofList (less : α → α → Bool) (now : Bool) (xs : List α) : Option (List (Run α)) :=
  ofListIn less (runLength xs.length) now xs.length xs

/-- The elements of a run in order, if `sort` sorts those that are not. -/
def toSorted (sort : List α → Option (List α)) (r : Run α) : Option (List α) :=
  if r.sorted then some r.items else sort r.items

/-- Two neighbours as one run. -/
def join (less : α → α → Bool) (sort : List α → Option (List α)) (left right : Run α) :
    Option (Run α) :=
  if left.sorted || right.sorted then do
    let ls ← left.toSorted sort
    let rs ← right.toSorted sort
    return ⟨mergeShorter less ls rs, true⟩
  else some ⟨left.items ++ right.items, false⟩

end Run

/-- The depth of the point where two stretches of a list of length `n` meet: the
    number of leading digits that the binary fractions for the middles of the
    two have in common. -/
def meetingDepth (n start meet stop : Nat) : Nat :=
  let scale := (0x4000000000000000 + n - 1) / n
  63 - Nat.log2 ((scale * (start + meet)) ^^^ (scale * (meet + stop)))

/-- Join a run with those before it that meet their neighbours at the given depth
    or deeper. The runs before it stand last first, each with the depth at which
    it meets the next one. -/
def collapse (less : α → α → Bool) (sort : List α → Option (List α)) (depth : Nat) :
    List (Run α × Nat) → Run α → Option (List (Run α × Nat) × Run α)
  | [], run => some ([], run)
  | (left, d) :: before, run =>
    if depth ≤ d then (left.join less sort run).bind (collapse less sort depth before)
    else some ((left, d) :: before, run)

/-- Join the runs of a list of length `n`, being at the run that ends at
    `stop`. -/
def joinRuns (less : α → α → Bool) (sort : List α → Option (List α)) (n : Nat) :
    List (Run α × Nat) → Run α → Nat → List (Run α) → Option (Run α)
  | before, run, _, [] => (collapse less sort 0 before run).map Prod.snd
  | before, run, stop, next :: runs => do
    let last := stop + next.items.length
    let depth := meetingDepth n (stop - run.items.length) stop last
    let (before, joined) ← collapse less sort depth before run
    joinRuns less sort n ((joined, depth) :: before) next last runs

/-- Sort a list by its runs, where `sort` sorts those that are left for
    later. -/
def sortRuns (less : α → α → Bool) (sort : List α → Option (List α)) (now : Bool) (xs : List α) :
    Option (List α) := do
  match ← Run.ofList less now xs with
  | [] => return xs
  | run :: runs =>
    let joined ← joinRuns less sort xs.length [] run run.items.length runs
    joined.toSorted sort

/-- A way of sorting that loses and adds nothing where it gives a result. -/
def Permutes (sort : List α → Option (List α)) : Prop :=
  ∀ xs ys, sort xs = some ys → ys.Perm xs

variable {less : α → α → Bool} {sort : List α → Option (List α)}

theorem perm_toSorted (h : Permutes sort) {r : Run α} {ys : List α}
    (hys : r.toSorted sort = some ys) : ys.Perm r.items := by
  rw [Run.toSorted] at hys
  split at hys
  · rw [← Option.some.inj hys]
  · exact h r.items ys hys

theorem perm_join (h : Permutes sort) {left right joined : Run α}
    (hjoined : left.join less sort right = some joined) :
    joined.items.Perm (left.items ++ right.items) := by
  rw [Run.join] at hjoined
  split at hjoined
  · simp only [Option.bind_eq_bind, Option.bind_eq_some_iff, Option.pure_def] at hjoined
    rcases hjoined with ⟨ls, hls, rs, hrs, heq⟩
    rw [← Option.some.inj heq]
    exact (perm_mergeShorter less ls rs).trans ((perm_toSorted h hls).append (perm_toSorted h hrs))
  · rw [← Option.some.inj hjoined]

theorem perm_first {least : Nat} {now : Bool} {xs : List α} {run : Run α} {rest : List α}
    (h : Run.first less least now xs = some (run, rest)) : (run.items ++ rest).Perm xs := by
  rw [Run.first] at h
  generalize sortedFront less xs = front at h
  rcases front with ⟨count, downward⟩
  simp only at h
  split at h
  · cases h
    rcases downward
    · rw [if_neg Bool.false_ne_true, List.take_append_drop]
    · rw [if_pos rfl]
      refine ((List.reverse_perm _).append_right _).trans ?_
      rw [List.take_append_drop]
  · split at h
    · rcases Option.map_eq_some_iff.mp h with ⟨items, hitems, heq⟩
      cases heq
      refine ((perm_sortShort less hitems).append_right _).trans ?_
      rw [List.take_append_drop]
    · cases h
      rw [List.take_append_drop]

theorem perm_ofListIn {least : Nat} {now : Bool} {count : Nat} {xs : List α}
    {runs : List (Run α)} (h : Run.ofListIn less least now count xs = some runs) :
    (runs.flatMap Run.items).Perm xs := by
  induction count generalizing xs runs with
  | zero =>
      rw [Run.ofListIn] at h
      split at h
      · rename_i hempty
        rw [List.isEmpty_iff.mp hempty, ← Option.some.inj h]
        exact .refl _
      · rcases Option.map_eq_some_iff.mp h with ⟨items, hitems, rfl⟩
        simpa using perm_sortShort less hitems
  | succ count ih =>
      rw [Run.ofListIn] at h
      split at h
      · rename_i hempty
        rw [List.isEmpty_iff.mp hempty, ← Option.some.inj h]
        exact .refl _
      · simp only [Option.bind_eq_bind, Option.bind_eq_some_iff, Option.pure_def] at h
        rcases h with ⟨⟨run, rest⟩, hfirst, more, hmore, heq⟩
        rw [← Option.some.inj heq, List.flatMap_cons]
        exact ((ih hmore).append_left _).trans (perm_first hfirst)

/-- The elements of runs that stand last first. -/
def before : List (Run α × Nat) → List α
  | [] => []
  | (run, _) :: runs => before runs ++ run.items

theorem perm_collapse (h : Permutes sort) {depth : Nat} {runs earlier : List (Run α × Nat)}
    {run joined : Run α} (hjoined : collapse less sort depth runs run = some (earlier, joined)) :
    (before earlier ++ joined.items).Perm (before runs ++ run.items) := by
  induction runs generalizing run with
  | nil =>
      cases hjoined
      exact .refl _
  | cons p runs ih =>
      rcases p with ⟨left, d⟩
      rw [collapse] at hjoined
      split at hjoined
      · rcases Option.bind_eq_some_iff.mp hjoined with ⟨both, hboth, hrest⟩
        refine (ih hrest).trans (((perm_join h hboth).append_left _).trans ?_)
        rw [before, List.append_assoc]
      · cases hjoined
        exact .refl _

/-- At depth zero no run is left. -/
theorem collapse_zero {runs earlier : List (Run α × Nat)} {run joined : Run α}
    (h : collapse less sort 0 runs run = some (earlier, joined)) : earlier = [] := by
  induction runs generalizing run with
  | nil =>
      cases h
      rfl
  | cons p runs ih =>
      rw [collapse, if_pos (Nat.zero_le _)] at h
      rcases Option.bind_eq_some_iff.mp h with ⟨both, -, hrest⟩
      exact ih hrest

theorem perm_joinRuns (h : Permutes sort) {n : Nat} {earlier : List (Run α × Nat)} {run : Run α}
    {stop : Nat} {runs : List (Run α)} {joined : Run α}
    (hjoined : joinRuns less sort n earlier run stop runs = some joined) :
    joined.items.Perm (before earlier ++ run.items ++ runs.flatMap Run.items) := by
  induction runs generalizing earlier run stop with
  | nil =>
      rw [joinRuns] at hjoined
      rcases Option.map_eq_some_iff.mp hjoined with ⟨⟨rest, last⟩, hlast, rfl⟩
      have hc := perm_collapse h hlast
      rw [collapse_zero hlast] at hc
      simpa [before] using hc
  | cons next runs ih =>
      simp only [joinRuns, Option.bind_eq_bind, Option.bind_eq_some_iff] at hjoined
      rcases hjoined with ⟨⟨rest, last⟩, hlast, hrest⟩
      refine (ih hrest).trans ?_
      rw [before, List.flatMap_cons, ← List.append_assoc]
      exact ((perm_collapse h hlast).append_right _).append_right _

theorem permutes_sortRuns (h : Permutes sort) (now : Bool) : Permutes (sortRuns less sort now) := by
  intro xs ys hys
  simp only [sortRuns, Option.bind_eq_bind, Option.bind_eq_some_iff] at hys
  rcases hys with ⟨runs, hruns, hys⟩
  have hp := perm_ofListIn hruns
  rcases runs with _ | ⟨run, runs⟩
  · cases hys
    exact .refl _
  · rcases Option.bind_eq_some_iff.mp hys with ⟨joined, hjoined, hsorted⟩
    refine (perm_toSorted h hsorted).trans ((perm_joinRuns h hjoined).trans ?_)
    simpa [before] using hp

end Sorting

end DocQuery
