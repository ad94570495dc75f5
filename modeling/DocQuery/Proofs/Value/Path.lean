import DocQuery.Value.Path
import Mathlib.Tactic.Common

/-!
# Reading after Writing

How reading at a path, writing at a path and removing a name fit together. A
path is never empty once it has been written down, so what is put at it is
found there again, and is gone when it is removed. Writing and removing beneath
a name leave every other name alone.

The document that is written need not have anything at the path. Documents are
made on the way where there are none, and what is not a document on the way is
replaced. So the laws about a path and itself hold without a hypothesis, except
that the path has a name. A path without names is the document itself, and
nothing is ever put there.

The proofs are by induction on the path with the document general. A path with
one name is a matter of `insert` and `erase`, and a longer one writes the
document under its first name, where the induction goes on. Of a document only
two things are ever needed: what it has under a name, and what is left of it
without that name. The second of these (`erase_setAt_self` and the lemmas after
it) makes it possible to compare two documents in all names but one.

## Theorems

* `ofString_ne_nil`: A written path has at least one name.
* `at?_cons`: The first name of a path selects an entry.
* `at?_setAt_self`: What is put at a path is found there.
* `at?_removeAt_setAt`: What has been put somewhere can be removed.
* `setAt_setAt`: The last of two values that are put at a path counts.
* `removeAt_setAt_congr`: What is removed again leaves no trace.
* `get?_setAt_of_ne`, `get?_removeAt_of_ne`: Other names are left alone.
* `get?_setAt_congr`, `get?_removeAt_congr`: What is under a name in the end
  depends on what was under it.
* `distinct_setAt`, `distinct_removeAt`: Names stay distinct.
* `erase_setAt_self`, `erase_setAt_of_ne`: Writing and dropping a name.
* `erase_removeAt_self`, `erase_removeAt_of_ne`: The same for removing.
-/

namespace DocQuery

namespace Path

/-- A text without points is one name, so a written path has at least one. -/
theorem ofString_ne_nil (s : String) : ofString s ≠ [] := by
  rw [ofString, ne_eq, List.map_eq_nil_iff]
  exact Text.pieces_ne_nil _ _

end Path

namespace Document

/-- The first name of a path selects an entry, and the others go on from its
    value. -/
theorem at?_cons (d : Document) (name : String) (rest : Path) :
    d.at? (name :: rest) = (get? d name).bind fun v => v.at? rest :=
  Value.at?_document d name rest

/-- What is put at a path is found there. -/
theorem at?_setAt_self (d : Document) (path : Path) (v : Value) (h : path ≠ []) :
    (setAt d path v).at? path = some v := by
  induction path generalizing d with
  | nil => exact absurd rfl h
  | cons name rest ih =>
      cases rest with
      | nil => rw [setAt, at?_cons, get?_insert_self, Option.bind_some, Value.at?_nil]
      -- The document under the name is the one that has been written, so the rest of the
      -- path is read where it has been put.
      | cons next rest =>
          rw [setAt, at?_cons, get?_insert_self, Option.bind_some]
          exact ih (child d name) (List.cons_ne_nil next rest)

/-- Removing goes on in a document that has just been put under the name. -/
theorem removeAt_insert (d fields : Document) (name next : String) (rest : Path) :
    removeAt (insert d name (.document fields)) (name :: next :: rest) =
      insert d name (.document (removeAt fields (next :: rest))) := by
  rw [removeAt, get?_insert_self]
  exact insert_insert d name _ _

/-- What has been put somewhere can be removed. -/
theorem at?_removeAt_setAt (d : Document) (path : Path) (v : Value) (h : path ≠ []) :
    (removeAt (setAt d path v) path).at? path = none := by
  induction path generalizing d with
  | nil => exact absurd rfl h
  | cons name rest ih =>
      cases rest with
      | nil => rw [removeAt, at?_cons, get?_erase_self, Option.bind_none]
      -- The document that is removed from is the one that has been written.
      | cons next rest =>
          rw [setAt, removeAt_insert, at?_cons, get?_insert_self, Option.bind_some]
          exact ih (child d name) (List.cons_ne_nil next rest)

/-- The document under a name is the one that has been put there. -/
theorem child_insert_self (d fields : Document) (name : String) :
    child (insert d name (.document fields)) name = fields := by
  rw [child, get?_insert_self]

/-- The last of two values that are put at a path counts. -/
theorem setAt_setAt (d : Document) (path : Path) (v w : Value) :
    setAt (setAt d path v) path w = setAt d path w := by
  induction path generalizing d with
  | nil => rfl
  | cons name rest ih =>
      cases rest with
      | nil => exact insert_insert d name v w
      | cons next rest =>
          rw [setAt, setAt, setAt, child_insert_self, insert_insert, ih (child d name)]

/-- Writing beneath a name leaves every other name alone. -/
theorem get?_setAt_of_ne (d : Document) (name other : String) (rest : Path) (v : Value)
    (h : other ≠ name) : get? (setAt d (name :: rest) v) other = get? d other := by
  cases rest with
  | nil => exact get?_insert_of_ne d name other v h
  | cons next rest => exact get?_insert_of_ne d name other _ h

/-- Removing beneath a name leaves every other name alone. -/
theorem get?_removeAt_of_ne (d : Document) (name other : String) (rest : Path)
    (h : other ≠ name) : get? (removeAt d (name :: rest)) other = get? d other := by
  cases rest with
  | nil => exact get?_erase_of_ne d name other h
  | cons next rest =>
      rw [removeAt]
      split
      · exact get?_insert_of_ne d name other _ h
      · -- With no document under the name nothing is removed.
        rfl

theorem erase_insert_self (d : Document) (key : String) (v : Value) :
    erase (insert d key v) key = erase d key := by
  induction d with
  | nil => simp [insert, erase]
  | cons p d ih =>
      rcases p with ⟨k, w⟩
      by_cases hk : k = key
      · simp [insert, erase, hk]
      · rw [insert, if_neg hk]
        simpa [erase, hk] using ih

/-- What is put at a path and removed again leaves no trace of the value. -/
theorem removeAt_setAt_congr (d : Document) (path : Path) (v w : Value) (h : path ≠ []) :
    removeAt (setAt d path v) path = removeAt (setAt d path w) path := by
  induction path generalizing d with
  | nil => exact absurd rfl h
  | cons name rest ih =>
      cases rest with
      -- With one name, dropping it drops the value.
      | nil => rw [setAt, setAt, removeAt, removeAt, erase_insert_self, erase_insert_self]
      | cons next rest =>
          rw [setAt, setAt, removeAt_insert, removeAt_insert,
            ih (child d name) (List.cons_ne_nil next rest)]

/-- To put something under a name and to drop another one can change places. -/
theorem erase_insert_of_ne (d : Document) (key other : String) (v : Value) (h : key ≠ other) :
    erase (insert d key v) other = insert (erase d other) key v := by
  induction d with
  | nil => simp [insert, erase, h]
  | cons p d ih =>
      rcases p with ⟨k, w⟩
      by_cases hk : k = key
      · -- The value is replaced in place, at an entry that stays.
        subst hk
        simp [insert, erase, h]
      · rw [insert, if_neg hk]
        -- The entry at hand is dropped, or it stays in front of where the value goes.
        by_cases ho : k = other
        · simpa [erase, ho] using ih
        · simpa [erase, ho, insert, hk] using ih

theorem child_congr (d e : Document) (name : String) (h : get? d name = get? e name) :
    child d name = child e name := by
  rw [child, child, h]

/-- Writing beneath a name leaves the same there in documents that had the same
    there. If the path ends at the name, it does not matter what they had. -/
theorem get?_setAt_congr (d e : Document) (name : String) (rest : Path) (v : Value)
    (h : rest = [] ∨ get? d name = get? e name) :
    get? (setAt d (name :: rest) v) name = get? (setAt e (name :: rest) v) name := by
  cases rest with
  | nil => rw [setAt, setAt, get?_insert_self, get?_insert_self]
  | cons next rest =>
      have hget := h.resolve_left (List.cons_ne_nil next rest)
      rw [setAt, setAt, get?_insert_self, get?_insert_self, child_congr d e name hget]

/-- Removing beneath a name leaves the same there in documents that had the same
    there. -/
theorem get?_removeAt_congr (d e : Document) (name : String) (rest : Path)
    (h : get? d name = get? e name) :
    get? (removeAt d (name :: rest)) name = get? (removeAt e (name :: rest)) name := by
  cases rest with
  | nil => rw [removeAt, removeAt, get?_erase_self, get?_erase_self]
  | cons next rest =>
      rw [removeAt, removeAt, h]
      split
      · rw [get?_insert_self, get?_insert_self]
      · exact h

theorem distinct_erase (d : Document) (key : String) (h : Distinct d) : Distinct (erase d key) :=
  List.Nodup.sublist (List.Sublist.map Prod.fst List.filter_sublist) h

theorem distinct_setAt (d : Document) (path : Path) (v : Value) (h : Distinct d) :
    Distinct (setAt d path v) := by
  match path with
  | [] => exact h
  | [name] => exact distinct_insert d name v h
  | name :: _ :: _ => exact distinct_insert d name _ h

theorem distinct_removeAt (d : Document) (path : Path) (h : Distinct d) :
    Distinct (removeAt d path) := by
  match path with
  | [] => exact h
  | [name] => exact distinct_erase d name h
  | name :: _ :: _ =>
      rw [removeAt]
      split
      · exact distinct_insert d name _ h
      · exact h

/-- All names but one do not show what is written beneath that one. -/
theorem erase_setAt_self (d : Document) (name : String) (rest : Path) (v : Value) :
    erase (setAt d (name :: rest) v) name = erase d name := by
  cases rest with
  | nil => exact erase_insert_self d name v
  | cons next rest => exact erase_insert_self d name _

/-- To write beneath a name and to drop another one can change places. -/
theorem erase_setAt_of_ne (d : Document) (name other : String) (rest : Path) (v : Value)
    (h : name ≠ other) :
    erase (setAt d (name :: rest) v) other = setAt (erase d other) (name :: rest) v := by
  cases rest with
  | nil => exact erase_insert_of_ne d name other v h
  | cons next rest =>
      -- What is written into is the same, since the other name is not on the way.
      have hc := child_congr (erase d other) d name (get?_erase_of_ne d other name h)
      rw [setAt, setAt, hc]
      exact erase_insert_of_ne d name other _ h

theorem erase_erase_comm (d : Document) (a b : String) :
    erase (erase d a) b = erase (erase d b) a := by
  simp only [erase, List.filter_filter, Bool.and_comm]

/-- All names but one do not show what is removed beneath that one. -/
theorem erase_removeAt_self (d : Document) (name : String) (rest : Path) :
    erase (removeAt d (name :: rest)) name = erase d name := by
  cases rest with
  | nil => simp [removeAt, erase]
  | cons next rest =>
      rw [removeAt]
      split
      · exact erase_insert_self d name _
      · rfl

/-- To remove beneath a name and to drop another one can change places. -/
theorem erase_removeAt_of_ne (d : Document) (name other : String) (rest : Path)
    (h : name ≠ other) :
    erase (removeAt d (name :: rest)) other = removeAt (erase d other) (name :: rest) := by
  cases rest with
  | nil => exact erase_erase_comm d name other
  | cons next rest =>
      -- Both removals look at what is under the first name, which is the same.
      rw [removeAt, removeAt, get?_erase_of_ne d other name h]
      split
      · exact erase_insert_of_ne d name other _ h
      · rfl

end Document

end DocQuery
