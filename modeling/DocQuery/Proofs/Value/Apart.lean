import DocQuery.Proofs.Value.Path

/-!
# Writing Elsewhere

Paths that diverge lead to different places, and still writing at one of them
may change what is found at the other. Reading crosses arrays, while writing
puts a fresh document in the place of an array that lies on the way, and with
the array goes everything that was read through it.

An array does harm exactly if it lies on the way of both paths. One straight
path is enough to rule this out: where two paths part, all names that they share
are behind them. Other values on the way do no harm: nothing is found beneath
them before, and nothing but the written path is beneath the document that takes
their place.

The condition is about the document before anything is written, and it is exact
for what is found at the other path: with a shared array it is gone
(`at?_setAt_of_sharesArray`), without one it is what it was. The proofs are by
induction on the path that is written. While both paths have the same names, the
question moves to the document under the name. At the first name in which they
differ it is answered by the entries.

## Main definitions

* `Document.Straight`: No array lies on the way to the end of a path.
* `Document.HasArrayAt`: An array is found at a path.
* `Document.SharesArray`: An array lies on the way of both of two paths.

## Theorems

* `Path.diverges_cons_iff`: Paths part at their first names or beneath them.
* `Document.at?_child`: What is found beneath a name that has no array.
* `Document.straight_iff`: A straight path has no array before its end.
* `Document.at?_setAt_of_not_sharesArray`: What is found at one path is left
  alone by writing at another one if they share no array.
* `Document.at?_setAt_of_sharesArray`: Otherwise it is gone.
* `Document.at?_setAt_of_diverges`: One straight path is enough.
* `Document.straight_of_at?_eq_none`: Only a straight path finds nothing.
* `Document.straight_setAt_self`, `straight_setAt_of_diverges`: Writing makes
  its own path straight and keeps others so.
-/

namespace DocQuery

namespace Path

instance (p q : Path) : Decidable (p.Diverges q) :=
  inferInstanceAs (Decidable (¬ p <+: q ∧ ¬ q <+: p))

/-- Paths part at their first names, or the rests of them do. -/
theorem diverges_cons_iff (name other : String) (p q : Path) :
    Diverges (name :: p) (other :: q) ↔ name ≠ other ∨ Diverges p q := by
  unfold Diverges
  rw [List.cons_prefix_cons, List.cons_prefix_cons]
  by_cases h : name = other
  · subst h
    simp
  · simp [h, Ne.symm h]

/-- Paths that part have names left to part at. -/
theorem exists_cons_of_diverges (p q : Path) (h : Diverges p q) :
    (∃ name rest, p = name :: rest) ∧ ∃ other rest, q = other :: rest := by
  constructor
  · cases p with
    | nil => exact absurd List.nil_prefix h.1
    | cons name rest => exact ⟨name, rest, rfl⟩
  · cases q with
    | nil => exact absurd List.nil_prefix h.2
    | cons other rest => exact ⟨other, rest, rfl⟩

end Path

namespace Document

/-- No array lies on the way to the end of a path. -/
def Straight : Document → Path → Prop
  | d, name :: next :: rest =>
    (∀ items, get? d name ≠ some (.array items)) ∧ Straight (child d name) (next :: rest)
  | _, _ => True

/-- What is found beneath a name is found in the document under it, also if
    there is none, unless there is an array. -/
theorem at?_child (d : Document) (name next : String) (rest : Path)
    (h : ∀ items, get? d name ≠ some (.array items)) :
    (child d name).at? (next :: rest) = d.at? (name :: next :: rest) := by
  rw [at?_cons d name, child]
  rcases hget : get? d name with _ | v
  · rfl
  · cases v with
    | document fields => rfl
    | array items => exact absurd hget (h items)
    | _ => rfl

/-- Is there an array at a path? -/
def HasArrayAt (d : Document) (path : Path) : Prop :=
  ∃ items, d.at? path = some (.array items)

/-- Is there an array on the way of both of two paths? -/
def SharesArray (d : Document) (p q : Path) : Prop :=
  ∃ shared, shared <+: p ∧ shared <+: q ∧ d.HasArrayAt shared

/-- A document is not an array. -/
theorem not_hasArrayAt_nil (d : Document) : ¬ d.HasArrayAt [] := by
  rintro ⟨items, hat⟩
  cases hat

/-- An array at a path with one name is an entry. -/
theorem hasArrayAt_singleton_iff (d : Document) (name : String) :
    d.HasArrayAt [name] ↔ ∃ items, get? d name = some (.array items) := by
  unfold HasArrayAt
  rw [at?_cons]
  cases get? d name with
  | none => rfl
  | some v => rw [Option.bind_some, Value.at?_nil]

/-- An array is found under the first name of a path, or further on. -/
theorem hasArrayAt_cons_iff (d : Document) (name : String) (rest : Path) :
    d.HasArrayAt (name :: rest) ↔ d.HasArrayAt [name] ∨ (child d name).HasArrayAt rest := by
  rcases rest with _ | ⟨next, rest⟩
  · exact (or_iff_left (not_hasArrayAt_nil _)).symm
  · by_cases harray : d.HasArrayAt [name]
    · -- Beneath an array there is an array of whatever is found in it.
      refine iff_of_true ?_ (Or.inl harray)
      rcases (hasArrayAt_singleton_iff d name).mp harray with ⟨items, hget⟩
      exact ⟨_, by rw [at?_cons, hget, Option.bind_some, Value.at?_array]⟩
    · have hitems : ∀ items, get? d name ≠ some (.array items) :=
        fun items hget => harray ((hasArrayAt_singleton_iff d name).mpr ⟨items, hget⟩)
      rw [or_iff_right harray, HasArrayAt, HasArrayAt, at?_child d name next rest hitems]

/-- Two paths share an array under their first name, or in the document there. -/
theorem sharesArray_cons_iff (d : Document) (name other : String) (p q : Path) :
    SharesArray d (name :: p) (other :: q) ↔
      name = other ∧ (d.HasArrayAt [name] ∨ SharesArray (child d name) p q) := by
  constructor
  · rintro ⟨shared, hp, hq, harray⟩
    rcases shared with _ | ⟨first, shared⟩
    · exact absurd harray (not_hasArrayAt_nil d)
    rcases List.cons_prefix_cons.mp hp with ⟨rfl, hp'⟩
    rcases List.cons_prefix_cons.mp hq with ⟨rfl, hq'⟩
    exact ⟨rfl, ((hasArrayAt_cons_iff d first shared).mp harray).imp_right
      fun hchild => ⟨shared, hp', hq', hchild⟩⟩
  · -- Back again, a part of the way is put beneath the name that both paths start with.
    have hcons : ∀ shared : Path, shared <+: p → name :: shared <+: name :: p :=
      fun shared hp => List.cons_prefix_cons.mpr ⟨rfl, hp⟩
    rintro ⟨rfl, harray | ⟨shared, hp, hq, harray⟩⟩
    · exact ⟨[name], hcons [] List.nil_prefix,
        List.cons_prefix_cons.mpr ⟨rfl, List.nil_prefix⟩, harray⟩
    · exact ⟨name :: shared, hcons shared hp, List.cons_prefix_cons.mpr ⟨rfl, hq⟩,
        (hasArrayAt_cons_iff d name shared).mpr (Or.inr harray)⟩

/-- A path is straight if there is no array before its end. -/
theorem straight_iff (d : Document) (path : Path) :
    Straight d path ↔ ∀ front, front <+: path → front ≠ path → ¬ d.HasArrayAt front := by
  induction path generalizing d with
  | nil =>
      refine iff_of_true trivial fun front hfront hne => ?_
      exact absurd (List.prefix_nil.mp hfront) hne
  | cons name rest ih =>
      cases rest with
      | nil =>
          refine iff_of_true trivial fun front hfront hne => ?_
          rcases front with _ | ⟨first, front⟩
          · exact not_hasArrayAt_nil d
          · rcases List.cons_prefix_cons.mp hfront with ⟨rfl, hnil⟩
            exact absurd (congrArg _ (List.prefix_nil.mp hnil)) hne
      | cons next rest =>
          rw [Straight, ih (child d name)]
          -- The first name is one of the fronts, and the others begin with it.
          have hhead : (∀ items, get? d name ≠ some (.array items)) ↔ ¬ d.HasArrayAt [name] := by
            rw [hasArrayAt_singleton_iff, not_exists]
          rw [hhead]
          constructor
          · -- A front is empty, or starts with the first name and goes on in the document
            -- there.
            rintro ⟨hname, hrest⟩ front hfront hne
            rcases front with _ | ⟨first, front⟩
            · exact not_hasArrayAt_nil d
            · rcases List.cons_prefix_cons.mp hfront with ⟨rfl, hrestFront⟩
              rw [hasArrayAt_cons_iff, not_or]
              exact ⟨hname, hrest front hrestFront fun h => hne (congrArg _ h)⟩
          · intro h
            refine ⟨h [name] ⟨next :: rest, rfl⟩ (by simp), fun front hfront hne harray => ?_⟩
            refine h (name :: front) (List.cons_prefix_cons.mpr ⟨rfl, hfront⟩) (fun heq => ?_)
              ((hasArrayAt_cons_iff d name front).mpr (Or.inr harray))
            exact hne (List.cons.inj heq).2

/-- What is found at one path is left alone by writing at another one, if they
    share no array. -/
theorem at?_setAt_of_not_sharesArray (d : Document) (p q : Path) (v : Value) (h : p.Diverges q)
    (hshares : ¬ SharesArray d p q) : (setAt d p v).at? q = d.at? q := by
  induction p generalizing d q with
  | nil => exact absurd List.nil_prefix h.1
  | cons name p ih =>
      rcases (Path.exists_cons_of_diverges _ _ h).2 with ⟨other, q, rfl⟩
      by_cases hname : name = other
      · -- The paths part further on, beneath a name that has no array.
        subst hname
        have hrest := ((Path.diverges_cons_iff name name p q).mp h).resolve_left fun hne => hne rfl
        rcases Path.exists_cons_of_diverges p q hrest with ⟨⟨a, p, rfl⟩, b, q, rfl⟩
        rw [sharesArray_cons_iff, not_and_or, not_or] at hshares
        rcases hshares.resolve_left fun hne => hne rfl with ⟨harray, hchild⟩
        have hitems : ∀ items, get? d name ≠ some (.array items) :=
          fun items hget => harray ((hasArrayAt_singleton_iff d name).mpr ⟨items, hget⟩)
        rw [setAt, at?_cons, get?_insert_self, Option.bind_some, ← at?_child d name b q hitems]
        exact ih (child d name) (b :: q) hrest hchild
      · -- The paths part at once, so the entry read is not the one written.
        rw [at?_cons, at?_cons, get?_setAt_of_ne d name other p v (Ne.symm hname)]

/-- A straight path shares no array with one that parts from it. -/
theorem not_sharesArray_of_straight (d : Document) (p q : Path) (h : p.Diverges q)
    (hstraight : Straight d p ∨ Straight d q) : ¬ SharesArray d p q := by
  rintro ⟨shared, hp, hq, harray⟩
  rcases hstraight with hstraight | hstraight
  · refine (straight_iff d p).mp hstraight shared hp ?_ harray
    rintro rfl
    exact h.1 hq
  · refine (straight_iff d q).mp hstraight shared hq ?_ harray
    rintro rfl
    exact h.2 hp

/-- What is found through a path that crosses an array is an array. -/
theorem hasArrayAt_beneath (d : Document) (front path : Path) (hfront : front <+: path)
    (harray : d.HasArrayAt front) : d.HasArrayAt path := by
  induction front generalizing d path with
  | nil => exact absurd harray (not_hasArrayAt_nil d)
  | cons name front ih =>
      rcases path with _ | ⟨first, path⟩
      · exact absurd (List.prefix_nil.mp hfront) (List.cons_ne_nil _ _)
      rcases List.cons_prefix_cons.mp hfront with ⟨rfl, hrest⟩
      -- The array is under the first name, or in the document there.
      rw [hasArrayAt_cons_iff] at harray ⊢
      exact harray.imp_right (ih (child d name) path hrest)

/-- What is read through an array that two paths share is gone when something is
    written at one of them. -/
theorem at?_setAt_of_sharesArray (d : Document) (p q : Path) (v : Value) (h : p.Diverges q)
    (hshares : SharesArray d p q) : (setAt d p v).at? q = none := by
  induction p generalizing d q with
  | nil => exact absurd List.nil_prefix h.1
  | cons name p ih =>
      rcases (Path.exists_cons_of_diverges _ _ h).2 with ⟨other, q, rfl⟩
      rcases (sharesArray_cons_iff d name other p q).mp hshares with ⟨rfl, harray⟩
      have hrest := ((Path.diverges_cons_iff name name p q).mp h).resolve_left fun hne => hne rfl
      rcases Path.exists_cons_of_diverges p q hrest with ⟨⟨a, p, rfl⟩, b, q, rfl⟩
      rw [setAt, at?_cons, get?_insert_self, Option.bind_some]
      rcases harray with harray | hchild
      · -- A fresh document takes the place of the array.
        rcases (hasArrayAt_singleton_iff d name).mp harray with ⟨items, hget⟩
        have hchild : child d name = [] := by rw [child, hget]
        rw [hchild]
        refine (at?_setAt_of_not_sharesArray [] (a :: p) (b :: q) v hrest ?_).trans rfl
        rintro ⟨shared, hp, hq, items, hat⟩
        rcases shared with _ | ⟨first, shared⟩
        · cases hat
        · cases hat
      · -- The shared array lies further on.
        exact ih (child d name) (b :: q) hrest hchild

/-- What is found at one path is left alone by writing at another one, if one
    of the two is straight. -/
theorem at?_setAt_of_diverges (d : Document) (p q : Path) (v : Value) (h : p.Diverges q)
    (hstraight : Straight d p ∨ Straight d q) : (setAt d p v).at? q = d.at? q :=
  at?_setAt_of_not_sharesArray d p q v h (not_sharesArray_of_straight d p q h hstraight)

/-- Only a straight path finds nothing, since there is always an array to be
    read through an array. -/
theorem straight_of_at?_eq_none (d : Document) (path : Path) (h : d.at? path = none) :
    Straight d path := by
  refine (straight_iff d path).mpr fun front hfront _ harray => ?_
  rcases hasArrayAt_beneath d front path hfront harray with ⟨items, hat⟩
  rw [h] at hat
  cases hat

/-- Only documents are on the way of a path that has been written. -/
theorem straight_setAt_self (d : Document) (path : Path) (v : Value) :
    Straight (setAt d path v) path := by
  induction path generalizing d with
  | nil => exact trivial
  | cons name rest ih =>
      cases rest with
      | nil => exact trivial
      | cons next rest =>
          rw [setAt, Straight, get?_insert_self, child_insert_self]
          exact ⟨fun items hget => Value.noConfusion (Option.some.inj hget), ih (child d name)⟩

/-- Writing keeps the paths straight that part from its own. -/
theorem straight_setAt_of_diverges (d : Document) (p q : Path) (v : Value) (h : p.Diverges q)
    (hstraight : Straight d q) : Straight (setAt d p v) q := by
  induction p generalizing d q with
  | nil => exact absurd List.nil_prefix h.1
  | cons name p ih =>
      match q with
      | [] => exact trivial
      | [_] => exact trivial
      | other :: b :: q =>
          by_cases hname : name = other
          · -- A document is written under the name that the paths share.
            subst hname
            have hrest := ((Path.diverges_cons_iff name name p _).mp h).resolve_left
              fun hne => hne rfl
            rcases (Path.exists_cons_of_diverges p _ hrest).1 with ⟨a, p, rfl⟩
            rw [setAt, Straight, get?_insert_self, child_insert_self]
            exact ⟨fun items hget => Value.noConfusion (Option.some.inj hget),
              ih (child d name) (b :: q) hrest hstraight.2⟩
          · have hget := get?_setAt_of_ne d name other p v (Ne.symm hname)
            rw [Straight, hget, child_congr _ d other hget]
            exact hstraight

end Document

end DocQuery
