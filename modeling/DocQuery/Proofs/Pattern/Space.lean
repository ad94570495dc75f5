import DocQuery.Pattern.Draft.Ranges
import Mathlib.Algebra.BigOperators.Group.List.Basic
import Mathlib.Algebra.Ring.Nat
import Mathlib.Data.List.Forall2
import Mathlib.Data.List.SplitBy
import Mathlib.Tactic.Common

/-!
# Space in Automata

What the parts of an automaton take. A part takes the same space wherever it
stands, so the spaces of parts in a row add up. `Draft.Takes` is that a part has
a space of its own, and parts in a row have one again (`Draft.takes_sequence?`).
A draft that is given up on the way would have been too large at the end, so it
makes no difference where it is noticed.

The exception are sets that are not within ASCII. Their states are kept in a
table to be shared, so what a state takes depends on those before it. No state
is shared as long as no two of them start at the same byte, and then their
number is known. That the bytes differ is all that the proofs use. Where the
table has its places does not matter, since a state that is found there by
accident is not the one that is looked for.

A draft counts as the automaton is built, and gives up as soon as the count is
too large. So two counts in a row fail if their sum is too large, whichever of
them notices (`Draft.add?_bind_add?`), and with that every part that has a fixed
number of states is one single count. What remains is to show of each part that
it has a fixed number, which is where the table comes in.

## Main definitions

* `Draft.space`: The space that the counted states take.
* `Draft.Takes`: A part of an automaton takes a space wherever it stands.
* `Sharing.Holds`: The states of a table have one link each, for known bytes.

## Theorems

* `Draft.takes_sequence?`: Parts in a row take what they take one by one.
* `Sharing.state_eq`, `single_eq`: A state that is not in the table is built.
* `Sharing.tree_three`, `next_foldl_rows`: The states for some rows of bytes.
* `Draft.addFromFront?_eq`, `addFromBack?_eq`: The space of those states.
-/

namespace DocQuery

namespace Pattern

namespace Draft

/-- The space that the counted states take. -/
def space (d : Draft) : Nat :=
  d.states * stateSpace + d.extra

/-- To count is to compare the space with the limit. -/
theorem add?_eq (d : Draft) (states extra : Nat) :
    d.add? states extra =
      if d.space + (states * stateSpace + extra) ≤ limit then
        some { states := d.states + states, extra := d.extra + extra }
      else none := by
  have hspace : (d.states + states) * stateSpace + (d.extra + extra) =
      d.space + (states * stateSpace + extra) := by
    rw [space, Nat.add_mul]
    omega
  rw [add?]
  simp only [hspace]

theorem isSome_add?_iff (d : Draft) (states extra : Nat) :
    (d.add? states extra).isSome = true ↔ d.space + (states * stateSpace + extra) ≤ limit := by
  rw [add?_eq]
  split
  · simpa
  · simpa using Nat.not_le.mp ‹_›

/-- To count twice is to count once what is counted together. What has become
    too large on the way is too large in the end. -/
theorem add?_bind_add? (d : Draft) (s₁ e₁ s₂ e₂ : Nat) :
    ((d.add? s₁ e₁).bind fun d => d.add? s₂ e₂) = d.add? (s₁ + s₂) (e₁ + e₂) := by
  have hsum : (s₁ + s₂) * stateSpace + (e₁ + e₂) =
      s₁ * stateSpace + e₁ + (s₂ * stateSpace + e₂) := by
    rw [Nat.add_mul]
    omega
  rw [add?_eq, add?_eq, hsum]
  -- The first count may fail already, and then the sum is too large as well.
  by_cases hfirst : d.space + (s₁ * stateSpace + e₁) ≤ limit
  · have hspace : ({ states := d.states + s₁, extra := d.extra + e₁ : Draft }).space =
        d.space + (s₁ * stateSpace + e₁) := by
      simp only [space, Nat.add_mul]
      omega
    rw [if_pos hfirst, Option.bind_some, add?_eq, hspace, Nat.add_assoc]
    simp only [Nat.add_assoc]
  · rw [if_neg hfirst, Option.bind_none, if_neg (by omega)]

/-- What has just been counted does not branch, so a link from it takes no
    space. -/
theorem add?_bind_linked (d : Draft) (s₁ e₁ s₂ e₂ : Nat) :
    ((d.add? s₁ e₁).bind fun d => d.linked.add? s₂ e₂) = d.add? (s₁ + s₂) (e₁ + e₂) := by
  rw [← add?_bind_add?, add?_eq d s₁ e₁]
  split
  · rfl
  · rfl

/-- A part of an automaton takes the given space wherever it stands. -/
def Takes (part : Draft → Option Draft) (n : Nat) : Prop :=
  ∃ states extra, states * stateSpace + extra = n ∧ ∀ d, part d = d.add? states extra

/-- Of two parts, one behind the other, each takes its own space. -/
theorem Takes.bind {part next : Draft → Option Draft} {m n : Nat} (h : Takes part m)
    (h' : Takes next n) : Takes (fun d => (part d).bind fun d => next d.linked) (m + n) := by
  rcases h with ⟨s₁, e₁, rfl, hpart⟩
  rcases h' with ⟨s₂, e₂, rfl, hnext⟩
  refine ⟨s₁ + s₂, e₁ + e₂, by rw [Nat.add_mul]; omega, fun d => ?_⟩
  simp only [hpart, hnext, add?_bind_linked]

/-- Parts in a row take what they take one by one. -/
theorem takes_sequence? {parts : List (Draft → Option Draft)} {ns : List Nat}
    (h : List.Forall₂ Takes parts ns) (hne : parts ≠ []) : Takes (sequence? parts) ns.sum := by
  induction h with
  | nil => exact absurd rfl hne
  | @cons part n parts ns hpart hparts ih =>
      cases hparts with
      | nil => simpa [sequence?] using hpart
      | @cons second m rest ms hsecond hrest =>
          have hbind := hpart.bind (ih (List.cons_ne_nil _ _))
          -- The first part is followed by a row, to which it is linked.
          have hsequence : sequence? (part :: second :: rest) =
              fun d => (part d).bind fun d => sequence? (second :: rest) d.linked := by
            funext d
            rw [sequence?]
            · cases part d with
              | none => rfl
              | some d => rfl
            · exact List.cons_ne_nil _ _
          rw [hsequence, List.sum_cons]
          exact hbind

end Draft

namespace Sharing

/-- The table has states with one link only, and the bytes that the links start
    at are among the given ones. -/
def Holds (s : Sharing) (lows : List Nat) : Prop :=
  ∀ (place : Nat) (known : List Edge) (n : Nat), s.table[place]? = some (known, n) →
    ∃ e : Edge, known = [e] ∧ e.low ∈ lows

theorem holds_start (next : Nat) : ({ next := next } : Sharing).Holds [] := by
  intro place known n h
  simp at h

/-- A state that is built comes into the table with its first byte. -/
theorem Holds.insert {s t : Sharing} {lows : List Nat} {place n : Nat} {e : Edge}
    (h : s.Holds lows) (htable : t.table = s.table.insert place ([e], n)) :
    t.Holds (e.low :: lows) := by
  intro place' known n' hfound
  rw [htable, Std.HashMap.getElem?_insert] at hfound
  split at hfound
  · cases hfound
    exact ⟨e, rfl, List.mem_cons_self ..⟩
  · rcases h place' known n' hfound with ⟨e', hknown, hlow⟩
    exact ⟨e', hknown, List.mem_cons_of_mem _ hlow⟩

/-- A state that starts at another byte is not in the table. -/
theorem Holds.ne_of_not_mem {s : Sharing} {lows : List Nat} (h : s.Holds lows) {e : Edge}
    (he : e.low ∉ lows) {place n : Nat} {known : List Edge}
    (hfound : s.table[place]? = some (known, n)) : known ≠ [e] := by
  rcases h place known n hfound with ⟨e', rfl, hlow⟩
  rintro heq
  cases heq
  exact he hlow

/-- A state that is not in the table is built. -/
theorem state_eq {s : Sharing} {edges : List Edge}
    (h : ∀ (place : Nat) (known : List Edge) (n : Nat),
      s.table[place]? = some (known, n) → known ≠ edges) :
    ∃ t, s.state edges = (s.next, t) ∧ t.next = s.next + 1 ∧ t.edges = s.edges + edges.length ∧
      ∃ place, t.table = s.table.insert place (edges, s.next) := by
  unfold state
  dsimp only
  -- The place may be taken, but not by this state.
  split
  · rename_i known n hfound
    rw [if_neg (h _ known n hfound)]
    exact ⟨_, rfl, rfl, rfl, _, rfl⟩
  · exact ⟨_, rfl, rfl, rfl, _, rfl⟩

/-- A state for one range is built if no state starts at its byte. -/
theorem single_eq {s : Sharing} {lows : List Nat} (h : s.Holds lows) (target : Nat)
    {r : Nat × Nat} (hr : r.1 ∉ lows) :
    ∃ t, s.single target r = (s.next, t) ∧ t.next = s.next + 1 ∧ t.Holds (r.1 :: lows) := by
  unfold single
  dsimp only
  split
  · rename_i known n hfound
    rw [if_neg (h.ne_of_not_mem (e := ⟨r.1, r.2, target⟩) hr hfound)]
    exact ⟨_, rfl, rfl, Holds.insert (e := ⟨r.1, r.2, target⟩) h rfl⟩
  · exact ⟨_, rfl, rfl, Holds.insert (e := ⟨r.1, r.2, target⟩) h rfl⟩

/-- A row of ranges that start at new bytes is built in full, one state for
    each of them. -/
theorem foldl_single {s : Sharing} {lows : List Nat} (h : s.Holds lows) (target : Nat)
    (row : List (Nat × Nat)) (hrow : (row.map Prod.fst).Nodup)
    (hnew : ∀ r ∈ row, r.1 ∉ lows) :
    ∃ last t, row.foldl (fun (target, s) r => single s target r) (target, s) = (last, t) ∧
      t.next = s.next + row.length ∧ t.Holds ((row.map Prod.fst).reverse ++ lows) := by
  induction row generalizing s lows target with
  | nil => exact ⟨target, s, rfl, rfl, h⟩
  | cons r row ih =>
      rw [List.forall_mem_cons] at hnew
      rw [List.map_cons, List.nodup_cons] at hrow
      rcases single_eq h target hnew.1 with ⟨t, ht, hnext, hholds⟩
      -- The ranges that follow start at bytes that are new to the table with this state in
      -- it.
      have hfresh : ∀ r' ∈ row, r'.1 ∉ r.1 :: lows := by
        intro r' hr' hmem
        rcases List.mem_cons.mp hmem with heq | hmem
        · exact hrow.1 (heq ▸ List.mem_map_of_mem hr')
        · exact hnew.2 r' hr' hmem
      rcases ih hholds s.next hrow.2 hfresh with ⟨last, u, hu, hunext, huholds⟩
      refine ⟨last, u, (congrArg (List.foldl _ · row) ht).trans hu, ?_, ?_⟩
      · rw [hunext, hnext, List.length_cons]
        omega
      · rwa [List.map_cons, List.reverse_cons, List.append_assoc]

/-- So are several rows that all lead to one state. -/
theorem next_foldl_rows {s : Sharing} {lows : List Nat} (h : s.Holds lows) (target : Nat)
    (rows : List (List (Nat × Nat))) (hrows : (rows.flatten.map Prod.fst).Nodup)
    (hnew : ∀ r ∈ rows.flatten, r.1 ∉ lows) :
    (rows.foldl (fun s row =>
      (row.foldl (fun (target, s) r => single s target r) (target, s)).2) s).next =
        s.next + rows.flatten.length := by
  induction rows generalizing s lows with
  | nil => rfl
  | cons row rows ih =>
      rw [List.flatten_cons, List.map_append, List.nodup_append] at hrows
      rw [List.flatten_cons, List.forall_mem_append] at hnew
      -- The rows share no bytes, so what one leaves in the table is of no use to the next.
      rcases foldl_single h target row hrows.1 hnew.1 with ⟨last, t, ht, hnext, hholds⟩
      rw [List.foldl_cons, ht, ih hholds hrows.2.1, hnext, List.flatten_cons, List.length_append,
        Nat.add_assoc]
      intro r hr hmem
      rcases List.mem_append.mp hmem with hmem | hmem
      · exact hrows.2.2 _ (List.mem_reverse.mp hmem) _ (List.mem_map_of_mem hr) rfl
      · exact hnew.2 r hr hmem

/-- A tree for one row of ranges is built from the end of the row. -/
theorem tree_row {s : Sharing} {lows : List Nat} (h : s.Holds lows) (depth target : Nat)
    (r : Nat × Nat) (row : List (Nat × Nat)) (hdepth : row.length < depth)
    (hrow : ((r :: row).map Prod.fst).Nodup) (hnew : ∀ r' ∈ r :: row, r'.1 ∉ lows) :
    ∃ n t, tree depth target [r :: row] s = (n, t) ∧ t.next = s.next + (row.length + 1) ∧
      t.edges = s.edges + (row.length + 1) ∧ t.Holds ((r :: row).map Prod.fst ++ lows) := by
  induction row generalizing r depth with
  | nil =>
      -- The depth is enough for the row, so it is not used up.
      rcases depth with _ | depth
      · exact absurd hdepth (Nat.not_lt_zero _)
      have htree : tree (depth + 1) target [[r]] s = s.state [⟨r.1, r.2, target⟩] := rfl
      rcases state_eq fun place known n => h.ne_of_not_mem (e := ⟨r.1, r.2, target⟩)
        (hnew r (List.mem_cons_self ..)) with ⟨t, ht, hnext, hedges, place, htable⟩
      exact ⟨s.next, t, htree.trans ht, hnext, hedges, h.insert htable⟩
  | cons r' row ih =>
      rcases depth with _ | depth
      · exact absurd hdepth (Nat.not_lt_zero _)
      have htree : tree (depth + 1) target [r :: r' :: row] s =
          (tree depth target [r' :: row] s).2.state
            [⟨r.1, r.2, (tree depth target [r' :: row] s).1⟩] := rfl
      rw [List.map_cons, List.nodup_cons] at hrow
      rw [List.forall_mem_cons] at hnew
      rcases ih depth r' (by rw [List.length_cons] at hdepth; omega) hrow.2 hnew.2 with
        ⟨n, t, ht, hnext, hedges, hholds⟩
      rw [ht] at htree
      -- The state for the rest of the row is there, and this one starts at another byte.
      have hlow : r.1 ∉ (r' :: row).map Prod.fst ++ lows := fun hmem =>
        (List.mem_append.mp hmem).elim hrow.1 hnew.1
      rcases state_eq fun place known m => hholds.ne_of_not_mem (e := ⟨r.1, r.2, n⟩) hlow with
        ⟨u, hu, hunext, huedges, place, htable⟩
      refine ⟨t.next, u, htree.trans hu, ?_, ?_, hholds.insert htable⟩
      · rw [hunext, hnext, List.length_cons]
        omega
      · rw [huedges, hedges, List.length_cons, List.length_cons, List.length_nil]
        omega

/-- A tree for two ranges and a row of several has a state with three links. -/
theorem tree_three (depth target next : Nat) {a b c d : Nat × Nat} {row : List (Nat × Nat)}
    (hab : a ≠ b) (hbc : b ≠ c) (hdepth : row.length < depth)
    (hrow : ((d :: row).map Prod.fst).Nodup) :
    ∃ n t, tree (depth + 1) target [[a], [b], c :: d :: row] { next := next } = (n, t) ∧
      t.next = next + (row.length + 2) ∧ t.edges = row.length + 4 := by
  have hgroups : [[a], [b], c :: d :: row].splitBy (fun a b => a.head? == b.head?) =
      [[[a]], [[b]], [c :: d :: row]] := by
    rw [List.splitBy_eq_iff]
    simp [hab, hbc]
  rcases tree_row (holds_start next) depth target d row hdepth hrow (fun _ _ => List.not_mem_nil)
    with ⟨n, t, ht, hnext, hedges, hholds⟩
  have htree : tree (depth + 1) target [[a], [b], c :: d :: row] { next := next } =
      t.state [⟨a.1, a.2, target⟩, ⟨b.1, b.2, target⟩, ⟨c.1, c.2, n⟩] := by
    rw [tree, hgroups]
    have hinner : tree depth target ([c :: d :: row].map fun r => r.drop 1) { next := next } =
        (n, t) := ht
    simp only [List.foldl_cons, List.foldl_nil, hinner, List.nil_append, List.cons_append]
  -- The state for the first bytes has three links, and all others have one.
  have hthree : ∀ (place : Nat) (known : List Edge) (m : Nat), t.table[place]? = some (known, m) →
      known ≠ [⟨a.1, a.2, target⟩, ⟨b.1, b.2, target⟩, ⟨c.1, c.2, n⟩] := by
    intro place known m hfound heq
    rcases hholds place known m hfound with ⟨e, rfl, -⟩
    exact absurd heq (by simp)
  rcases state_eq hthree with ⟨u, hu, hunext, huedges, -⟩
  refine ⟨t.next, u, htree.trans hu, ?_, ?_⟩
  · rw [hunext, hnext]
    rfl
  · rw [huedges, hedges]
    simp only [List.length_cons, List.length_nil]
    omega

end Sharing

namespace Draft

/-- The space of two ranges and a row of several, read from the front. -/
theorem addFromFront?_eq (d : Draft) {a b c e : Nat × Nat} {row : List (Nat × Nat)}
    (hab : a ≠ b) (hbc : b ≠ c) (hdepth : row.length < 3)
    (hrow : ((e :: row).map Prod.fst).Nodup) :
    d.addFromFront? [[a], [b], c :: e :: row] =
      d.add? (row.length + 3) ((row.length + 4) * edgeSpace) := by
  rcases Sharing.tree_three 3 d.states (d.states + 1) hab hbc hdepth hrow with
    ⟨n, t, ht, hnext, hedges⟩
  rw [addFromFront?, ht]
  simp only [hnext, hedges]
  congr 1
  omega

/-- The space of rows of ranges without a byte that two of them start at, read
    from the back. -/
theorem addFromBack?_eq (d : Draft) (rows : List (List (Nat × Nat)))
    (h : (rows.flatten.map Prod.fst).Nodup) :
    d.addFromBack? rows = d.add? (rows.flatten.length + 2) (rows.length * linkSpace) := by
  have hnext := Sharing.next_foldl_rows (Sharing.holds_start (d.states + 2)) (d.states + 1) rows h
    fun _ _ => List.not_mem_nil
  rw [addFromBack?]
  simp only [hnext]
  congr 1
  omega

end Draft

end Pattern

end DocQuery
