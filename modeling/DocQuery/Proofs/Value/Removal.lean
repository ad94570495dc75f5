import DocQuery.Proofs.Value.Apart

/-!
# Removing Paths

Reading crosses arrays and removing does not, so removing a path takes away what
is found there only if the path is straight. If there is an array on the way,
nothing at all is removed.

When several paths are removed one after the other, an array protects what is
read through it as long as it stays itself. It stays if none of the paths ends at
it or before it: paths that go on inside it remove nothing, and the others lie
elsewhere. An array on the way that is removed protects nothing any more. So the
order of the paths does not matter for what is left at each of them.

Several paths are removed by a fold, so each is removed from what the ones
before it have left. The proofs carry through the fold what later removals
cannot undo: an array that shields stays at its place, a straight path stays
straight, and what is gone stays gone. Removing makes no arrays and no values,
which is `at?_removeAt_cases`, the one lemma that looks at how removing is
defined for all paths at once.

## Main definitions

* `Document.Shielded`: An array that stays lies on the way of a path.

## Theorems

* `at?_removeAt_cases`: What is left at any path when another one is removed.
* `at?_removeAt_beneath`: Nothing is left at a straight path that is removed,
  and beneath it.
* `removeAt_of_not_straight`: Nothing is removed behind an array.
* `at?_removeAt_of_diverges`: Removing a path leaves others alone.
* `at?_foldl_removeAt_eq_some_iff`: What is left at a path when several are
  removed, this one among them.
-/

namespace DocQuery

namespace Document

/-- To put back what is under a name changes nothing. -/
theorem insert_of_get?_eq_some (d : Document) (key : String) (v : Value)
    (h : get? d key = some v) : insert d key v = d := by
  induction d with
  | nil => cases h
  | cons p d ih =>
      rcases p with ⟨k, w⟩
      by_cases hk : k = key
      · rw [get?, if_pos hk] at h
        rw [insert, if_pos hk, Option.some.inj h]
      · rw [get?, if_neg hk] at h
        rw [insert, if_neg hk, ih h]

/-- At any path is left what was there, or nothing, or a document where one was
    before. -/
theorem at?_removeAt_cases (d : Document) (removed path : Path) :
    (removeAt d removed).at? path = d.at? path ∨ (removeAt d removed).at? path = none ∨
      ∃ before after, d.at? path = some (.document before) ∧
        (removeAt d removed).at? path = some (.document after) := by
  induction removed generalizing d path with
  | nil => exact Or.inl rfl
  | cons name rest ih =>
      rcases path with _ | ⟨other, path⟩
      · exact Or.inr (Or.inr ⟨_, _, rfl, rfl⟩)
      by_cases hname : other = name
      · subst hname
        rcases rest with _ | ⟨next, rest⟩
        · rw [removeAt, at?_cons, get?_erase_self]
          exact Or.inr (Or.inl rfl)
        · rw [removeAt]
          split
          · -- Beneath a document, the rest of the path is removed from it.
            rename_i fields hget
            rw [at?_cons, at?_cons, get?_insert_self, hget]
            exact ih fields path
          · exact Or.inl rfl
      · -- Another name is left alone.
        rw [at?_cons, at?_cons, get?_removeAt_of_ne d name other rest hname]
        exact Or.inl rfl

/-- Where nothing was found, nothing is found after removing. -/
theorem at?_removeAt_eq_none (d : Document) (removed path : Path) (h : d.at? path = none) :
    (removeAt d removed).at? path = none := by
  rcases at?_removeAt_cases d removed path with heq | hnone | ⟨before, after, hbefore, -⟩
  · exact heq.trans h
  · exact hnone
  · rw [h] at hbefore
    cases hbefore

/-- Removing makes no arrays. -/
theorem hasArrayAt_of_removeAt (d : Document) (removed path : Path)
    (h : (removeAt d removed).HasArrayAt path) : d.HasArrayAt path := by
  rcases h with ⟨items, hat⟩
  rcases at?_removeAt_cases d removed path with heq | hnone | ⟨before, after, -, hafter⟩
  · exact ⟨items, heq.symm.trans hat⟩
  · rw [hat] at hnone
    cases hnone
  · rw [hat] at hafter
    cases hafter

/-- Removing keeps paths straight, as it makes no arrays. -/
theorem straight_removeAt (d : Document) (removed path : Path) (h : Straight d path) :
    Straight (removeAt d removed) path := by
  rw [straight_iff] at h ⊢
  exact fun front hfront hne harray =>
    h front hfront hne (hasArrayAt_of_removeAt d removed front harray)

/-- Nothing is left at a straight path that is removed, and beneath it. -/
theorem at?_removeAt_beneath (d : Document) (removed path : Path) (hne : removed ≠ [])
    (hstraight : Straight d removed) (h : removed <+: path) :
    (removeAt d removed).at? path = none := by
  induction removed generalizing d path with
  | nil => exact absurd rfl hne
  | cons name rest ih =>
      rcases path with _ | ⟨other, path⟩
      · exact absurd (List.prefix_nil.mp h) (List.cons_ne_nil _ _)
      rcases List.cons_prefix_cons.mp h with ⟨rfl, hrest⟩
      -- With its last name the entry goes, and before that a document is gone into.
      rcases rest with _ | ⟨next, rest⟩
      · rw [removeAt, at?_cons, get?_erase_self]
        rfl
      · rcases path with _ | ⟨second, path⟩
        · exact absurd (List.prefix_nil.mp hrest) (List.cons_ne_nil _ _)
        have hchild := at?_child d name second path hstraight.1
        rw [removeAt]
        split
        · rename_i fields hget
          have hfields : child d name = fields := by rw [child, hget]
          rw [at?_cons, get?_insert_self]
          exact ih fields (second :: path) (List.cons_ne_nil _ _) (hfields ▸ hstraight.2) hrest
        · -- There is no document to go on in, so there was nothing to begin with.
          rename_i hget
          have hfields : child d name = [] := by
            unfold child
            split
            · exact absurd (by assumption) (hget _)
            · rfl
          rw [← hchild, hfields]
          rfl

/-- Nothing is removed behind an array. -/
theorem removeAt_of_not_straight (d : Document) (removed : Path) (h : ¬ Straight d removed) :
    removeAt d removed = d := by
  induction removed generalizing d with
  | nil => rfl
  | cons name rest ih =>
      rcases rest with _ | ⟨next, rest⟩
      · exact absurd trivial h
      · rw [removeAt]
        split
        · rename_i fields hget
          have hfields : child d name = fields := by rw [child, hget]
          -- Under the name is a document, so the array lies beneath it.
          have hrest : ¬ Straight fields (next :: rest) := by
            intro hstraight
            refine h ⟨fun items harray => ?_, hfields.symm ▸ hstraight⟩
            rw [hget] at harray
            cases harray
          rw [ih fields hrest, insert_of_get?_eq_some d name _ hget]
        · rfl

/-- Removing a path leaves alone what is found at a path that parts from it. -/
theorem at?_removeAt_of_diverges (d : Document) (removed path : Path)
    (h : removed.Diverges path) : (removeAt d removed).at? path = d.at? path := by
  induction removed generalizing d path with
  | nil => exact absurd List.nil_prefix h.1
  | cons name rest ih =>
      rcases (Path.exists_cons_of_diverges _ _ h).2 with ⟨other, path, rfl⟩
      -- Beneath a common name the rests part, and other names are left alone.
      by_cases hname : name = other
      · subst hname
        have hrest := ((Path.diverges_cons_iff name name rest path).mp h).resolve_left
          fun hne => hne rfl
        rcases Path.exists_cons_of_diverges rest path hrest with ⟨⟨next, rest, rfl⟩, -⟩
        rw [removeAt]
        split
        · rename_i fields hget
          rw [at?_cons, at?_cons, get?_insert_self, hget]
          exact ih fields path hrest
        · rfl
      · rw [at?_cons, at?_cons, get?_removeAt_of_ne d name other rest (Ne.symm hname)]

/-- What is read through an array stays when a path is removed that does not end
    at the array or before it. -/
theorem at?_removeAt_of_hasArrayAt (d : Document) (removed front path : Path)
    (harray : d.HasArrayAt front) (hremoved : ¬ removed <+: front) (hfront : front <+: path) :
    (removeAt d removed).at? path = d.at? path := by
  by_cases hstraight : Straight d removed
  · -- A straight path does not go on inside the array, so it lies elsewhere.
    have haway : ¬ front <+: removed := by
      intro hbefore
      refine (straight_iff d removed).mp hstraight front hbefore ?_ harray
      rintro rfl
      exact hremoved List.prefix_rfl
    refine at?_removeAt_of_diverges d removed path ⟨fun hpath => ?_, fun hpath => ?_⟩
    · rcases List.prefix_or_prefix_of_prefix hpath hfront with hbefore | hbefore
      · exact hremoved hbefore
      · exact haway hbefore
    · exact haway (hfront.trans hpath)
  · rw [removeAt_of_not_straight d removed hstraight]

/-- Does an array that stays lie on the way of a path, when several paths are
    removed? -/
def Shielded (d : Document) (removed : List Path) (path : Path) : Prop :=
  ∃ front, front <+: path ∧ d.HasArrayAt front ∧ ∀ other ∈ removed, ¬ other <+: front

/-- An array that stays keeps all that is read through it, whatever is removed. -/
theorem at?_foldl_removeAt_of_shielded (d : Document) (removed : List Path) (path : Path)
    (h : Shielded d removed path) : (removed.foldl removeAt d).at? path = d.at? path := by
  induction removed generalizing d with
  | nil => rfl
  | cons first removed ih =>
      rcases h with ⟨front, hfront, harray, haway⟩
      rw [List.forall_mem_cons] at haway
      -- The array is still there for the removals that follow.
      have hstays : (removeAt d first).HasArrayAt front := by
        rcases harray with ⟨items, hat⟩
        exact ⟨items, (at?_removeAt_of_hasArrayAt d first front front ⟨items, hat⟩ haway.1
          List.prefix_rfl).trans hat⟩
      rw [List.foldl_cons, ih (removeAt d first) ⟨front, hfront, hstays, haway.2⟩]
      exact at?_removeAt_of_hasArrayAt d first front path harray haway.1 hfront

/-- Paths that part from one leave alone what is found at it. -/
theorem at?_foldl_removeAt_of_diverges (d : Document) (removed : List Path) (path : Path)
    (h : ∀ other ∈ removed, other.Diverges path) :
    (removed.foldl removeAt d).at? path = d.at? path := by
  induction removed generalizing d with
  | nil => rfl
  | cons first removed ih =>
      rw [List.forall_mem_cons] at h
      rw [List.foldl_cons, ih _ h.2, at?_removeAt_of_diverges d first path h.1]

/-- What is gone stays gone. -/
theorem at?_foldl_removeAt_eq_none (d : Document) (removed : List Path) (path : Path)
    (h : d.at? path = none) : (removed.foldl removeAt d).at? path = none := by
  induction removed generalizing d with
  | nil => exact h
  | cons first removed ih => exact ih (removeAt d first) (at?_removeAt_eq_none d first path h)

/-- Nothing is left at a straight path that is among those removed, and beneath
    it. -/
theorem at?_foldl_removeAt_of_straight (d : Document) (removed : List Path) (front path : Path)
    (hne : front ≠ []) (hmem : front ∈ removed) (hstraight : Straight d front)
    (hfront : front <+: path) : (removed.foldl removeAt d).at? path = none := by
  induction removed generalizing d with
  | nil => cases hmem
  | cons first removed ih =>
      rcases List.mem_cons.mp hmem with rfl | hmem
      · exact at?_foldl_removeAt_eq_none _ removed path
          (at?_removeAt_beneath d front path hne hstraight hfront)
      · exact ih (removeAt d first) hmem (straight_removeAt d first front hstraight)

/-- Before a path that is among those removed there is an array that stays, or
    else a straight path that is among them too. -/
theorem shielded_or_exists_straight (d : Document) (removed : List Path) (path : Path)
    (hmem : path ∈ removed) :
    Shielded d removed path ∨ ∃ front ∈ removed, front <+: path ∧ Straight d front := by
  induction hlength : path.length using Nat.strongRecOn generalizing path with
  | ind n ih =>
      -- By the length of the path: the path that takes an array away is shorter.
      by_cases hstraight : Straight d path
      · exact Or.inr ⟨path, hmem, List.prefix_rfl, hstraight⟩
      rw [straight_iff] at hstraight
      push Not at hstraight
      rcases hstraight with ⟨front, hfront, hne, harray⟩
      by_cases haway : ∀ other ∈ removed, ¬ other <+: front
      · exact Or.inl ⟨front, hfront, harray, haway⟩
      · -- The array is removed itself, with a path that is shorter.
        push Not at haway
        rcases haway with ⟨other, hother, hbefore⟩
        have hshorter : other.length < n := by
          rw [← hlength]
          exact Nat.lt_of_le_of_lt hbefore.length_le
            (Nat.lt_of_le_of_ne hfront.length_le fun heq => hne (hfront.eq_of_length heq))
        have hpath := hbefore.trans hfront
        rcases ih _ hshorter other hother rfl with ⟨stays, hstays, hshield⟩ | ⟨top, htop, habove, h⟩
        · exact Or.inl ⟨stays, hstays.trans hpath, hshield⟩
        · exact Or.inr ⟨top, htop, habove.trans hpath, h⟩

/-- When several paths are removed, there is something left at one of them
    exactly if an array on its way stays, and then it is what was there. -/
theorem at?_foldl_removeAt_eq_some_iff (d : Document) (removed : List Path) (path : Path)
    (hmem : path ∈ removed) (hne : ∀ other ∈ removed, other ≠ []) (v : Value) :
    (removed.foldl removeAt d).at? path = some v ↔
      d.at? path = some v ∧ Shielded d removed path := by
  by_cases hshielded : Shielded d removed path
  · rw [at?_foldl_removeAt_of_shielded d removed path hshielded]
    exact (and_iff_left hshielded).symm
  · -- Without a shield a straight path above is removed, and takes this one with it.
    rcases (shielded_or_exists_straight d removed path hmem).resolve_left hshielded with
      ⟨front, hfront, habove, hstraight⟩
    rw [at?_foldl_removeAt_of_straight d removed front path (hne front hfront) hfront hstraight
      habove]
    exact iff_of_false (Option.some_ne_none v).symm fun h => hshielded h.2

end Document

end DocQuery
