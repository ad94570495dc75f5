import DocQuery.Proofs.Value.Apart
import DocQuery.Proofs.Value.Overlay
import Mathlib.Data.List.Infix

/-!
# Laws of Paths

Reading, writing and removing at a path fit together as for a lens. What is
written is read back, the last of two writings counts, and what has been written
can be removed again. This holds for every document, whatever lies on the way.

The rest of a document is left alone if a path has nothing in its way that would
have to be replaced. Then every path that parts from it finds what it found
before. The names keep their places in any case, at the top and in every document
on the way: writing at a path is writing in each of these documents, and brings
in one name at most, which comes last.

Without this condition the law on other paths would be false. A value on the way
that is no document gives way to one, and what was read through an array is gone
with the array (`Document.at?_setAt_of_sharesArray`). So that law has `OpenTo` as
a hypothesis, and the laws on the path itself have none.

## Main definitions

* `Document.OpenTo`: Nothing but documents lies on the way to the end of a path.

## Theorems

* `Document.keys_insert`, `keys_setAt`: The names after something is written.
* `Document.at?_setAt_front`: Writing at a path is writing in a document on its
  way.
* `Document.setAt_laws`: The laws of paths.
-/

namespace DocQuery

namespace Document

/-- A name that is there keeps its place, and a new one comes last. -/
theorem keys_insert (d : Document) (key : String) (v : Value) :
    keys (insert d key v) = if key ∈ keys d then keys d else keys d ++ [key] := by
  by_cases hmem : key ∈ keys d
  · -- The value is replaced in its entry, so the names stay.
    rw [if_pos hmem]
    induction d with
    | nil => cases hmem
    | cons p d ih =>
        rcases p with ⟨k, u⟩
        by_cases hk : k = key
        · rw [insert, if_pos hk]
          rfl
        · have hrest : key ∈ keys d := (List.mem_cons.mp hmem).resolve_left (Ne.symm hk)
          rw [insert, if_neg hk]
          exact congrArg (k :: ·) (ih hrest)
  · rw [if_neg hmem, insert_of_notMem d key v hmem, keys, List.map_append]
    rfl

/-- Writing brings in the first name of a path, unless it is there. -/
theorem keys_setAt (d : Document) (name : String) (rest : Path) (v : Value) :
    keys (setAt d (name :: rest) v) = if name ∈ keys d then keys d else keys d ++ [name] := by
  cases rest with
  | nil => exact keys_insert d name v
  | cons next rest => exact keys_insert d name _

/-- The names of a document keep their places. -/
theorem keys_prefix_setAt (d : Document) (path : Path) (v : Value) :
    keys d <+: keys (setAt d path v) := by
  cases path with
  | nil => exact List.prefix_rfl
  | cons name rest =>
      rw [keys_setAt]
      split
      · exact List.prefix_rfl
      · exact List.prefix_append _ _

/-- A path with more than one name writes the document under the first. -/
theorem setAt_cons (d : Document) (name : String) (rest : Path) (v : Value) (h : rest ≠ []) :
    setAt d (name :: rest) v = insert d name (.document (setAt (child d name) rest v)) := by
  cases rest with
  | nil => exact absurd rfl h
  | cons next rest => rfl

/-- A document beneath a name is found in the document under that name. -/
theorem at?_child_of_document (d fields : Document) (name : String) (front : Path)
    (h : d.at? (name :: front) = some (.document fields)) :
    (child d name).at? front = some (.document fields) := by
  cases front with
  | nil =>
      rw [at?_cons] at h
      rcases Option.bind_eq_some_iff.mp h with ⟨v, hget, hv⟩
      rw [Value.at?_nil] at hv
      rw [child, hget, Option.some.inj hv]
      exact Value.at?_nil _
  | cons next front =>
      have harray : ∀ items, get? d name ≠ some (.array items) := by
        -- What is read through an array is an array.
        intro items hget
        rw [at?_cons, hget, Option.bind_some, Value.at?_array] at h
        cases h
      rw [at?_child d name next front harray]
      exact h

/-- Writing at a path is writing in a document that lies on its way. -/
theorem at?_setAt_front (d fields : Document) (front rest : Path) (v : Value) (hrest : rest ≠ [])
    (h : d.at? front = some (.document fields)) :
    (setAt d (front ++ rest) v).at? front = some (.document (setAt fields rest v)) := by
  induction front generalizing d with
  | nil =>
      have hfields : d = fields := Value.document.inj (Option.some.inj h)
      rw [hfields]
      rfl
  | cons name front ih =>
      -- There are names left to write at, so the document under the first name is written
      -- into.
      have hne : front ++ rest ≠ [] := List.append_ne_nil_of_right_ne_nil front hrest
      rw [List.cons_append, setAt_cons d name _ v hne, at?_cons, get?_insert_self,
        Option.bind_some]
      exact ih (child d name) (at?_child_of_document d fields name front h)

/-- Does nothing but documents lie on the way to the end of a path? There may be
    less than the whole way. -/
def OpenTo (d : Document) (path : Path) : Prop :=
  ∀ front, front <+: path → front ≠ path →
    d.at? front = none ∨ ∃ fields, d.at? front = some (.document fields)

theorem straight_of_openTo (d : Document) (path : Path) (h : d.OpenTo path) :
    d.Straight path := by
  rw [straight_iff]
  rintro front hfront hne ⟨items, harray⟩
  rcases h front hfront hne with hnone | ⟨fields, hfields⟩
  · rw [harray] at hnone
    cases hnone
  · rw [harray] at hfields
    cases hfields

/-- The laws of paths. What is written is read back, the last of two writings
    counts, and what has been written can be removed. If nothing but documents lies
    on the way, paths that part from this one are left alone. The names keep their
    places, those of the document and those of every document on the way. -/
theorem setAt_laws (d : Document) (text : String) (v w : Value) :
    let path := Path.ofString text
    (d.setAt path v).at? path = some v ∧
      (d.setAt path v).setAt path w = d.setAt path w ∧
      ((d.setAt path v).removeAt path).at? path = none ∧
      (d.OpenTo path → ∀ other, path.Diverges other →
        (d.setAt path v).at? other = d.at? other) ∧
      keys d <+: keys (d.setAt path v) ∧
      ∀ front rest fields, path = front ++ rest → rest ≠ [] →
        d.at? front = some (.document fields) →
        ∃ after, (d.setAt path v).at? front = some (.document after) ∧
          keys fields <+: keys after := by
  intro path
  have hne : path ≠ [] := Path.ofString_ne_nil text
  refine ⟨at?_setAt_self d path v hne, setAt_setAt d path v w, at?_removeAt_setAt d path v hne,
    ?_, keys_prefix_setAt d path v, ?_⟩
  · intro hopen other hdiverges
    exact at?_setAt_of_diverges d path other v hdiverges (Or.inl (straight_of_openTo d path hopen))
  · intro front rest fields hpath hrest hat
    rw [hpath]
    exact ⟨_, at?_setAt_front d fields front rest v hrest hat, keys_prefix_setAt fields rest v⟩

/-- A document with items and, under two names, a price. -/
def pricedDocument : Document :=
  [("items", .array [.document [("price", .int32 3)], .document []]),
   ("cost", .document [("price", .int32 5), ("tax", .null)])]

/-- The price in no tax is written over. -/
theorem setAt_laws_priced :
    pricedDocument.OpenTo ["cost", "", "price"] ∧
      Path.Diverges ["cost", "", "price"] ["items", "price"] ∧
      (pricedDocument.setAt (Path.ofString "cost..price") (.int32 7)).at? ["items", "price"] =
        some (.array [.int32 3]) ∧
      ["cost", "", "price"] = ["cost"] ++ ["", "price"] ∧
      ∃ after, (pricedDocument.setAt (Path.ofString "cost..price") (.int32 7)).at? ["cost"] =
          some (.document after) ∧ ["price", "tax"] <+: keys after := by
  have hpath : Path.ofString "cost..price" = ["cost", "", "price"] := rfl
  -- Of the four fronts two are documents, one leads nowhere and one is the whole path.
  have hopen : pricedDocument.OpenTo ["cost", "", "price"] := by
    intro front hfront hne
    have hmem := (List.mem_inits front _).mpr hfront
    simp only [List.inits, List.map_cons, List.map_nil, List.mem_cons, List.not_mem_nil,
      or_false] at hmem
    rcases hmem with rfl | rfl | rfl | rfl
    · exact Or.inr ⟨_, rfl⟩
    · exact Or.inr ⟨_, rfl⟩
    · exact Or.inl rfl
    · exact absurd rfl hne
  have hlaws := setAt_laws pricedDocument "cost..price" (.int32 7) .null
  have hdiverges : Path.Diverges ["cost", "", "price"] ["items", "price"] := by decide
  refine ⟨hopen, hdiverges, ?_, rfl, ?_⟩
  · rw [hlaws.2.2.2.1 (hpath ▸ hopen) _ (hpath ▸ hdiverges)]
    rfl
  · exact hlaws.2.2.2.2.2 ["cost"] ["", "price"] _ hpath (by decide) rfl

end Document

end DocQuery
