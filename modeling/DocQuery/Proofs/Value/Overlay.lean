import DocQuery.Value.Basic
import Mathlib.Data.List.Nodup
import Mathlib.Data.List.Perm.Basic

/-!
# Documents as Maps

What a document says about a name, through insertions, overlays and removals.
In a document whose names are distinct the entries are exactly what its names
stand for, so two such documents that agree on every name differ in the order
of their entries only.

An insertion replaces a value in its place, or adds an entry at the end, and an
overlay is one insertion after the other. So the proofs about overlays are by
induction on the upper document, with the lower one general: what has been
inserted so far is the lower document of the rest.

That names are distinct is an assumption on the upper document alone where
values are read, since of two entries with one name the last would count. The
lower document may be anything.

## Theorems

* `mem_iff_get?_eq_some`: An entry is what its name stands for.
* `perm_of_get?_eq`: Documents that agree on every name.
* `get?_overlay`: The entries of the upper document count first.
* `distinct_overlay`: Overlays keep the names distinct.
* `ofPairs_of_distinct`: Distinct names need no insertion.
-/

namespace DocQuery

namespace Document

theorem insert_of_notMem (d : Document) (key : String) (value : Value) (h : key ∉ keys d) :
    insert d key value = d ++ [(key, value)] := by
  induction d with
  | nil => rfl
  | cons p d ih =>
      rcases p with ⟨k, v⟩
      simp only [keys, List.map_cons, List.mem_cons, not_or] at h
      -- No entry has the name, so the insertion goes to the end.
      rw [insert, if_neg (Ne.symm h.1), ih h.2, List.cons_append]

/-- The entries after an insertion are the new one and old ones. -/
theorem mem_insert_iff (d : Document) (key : String) (value : Value) (p : String × Value)
    (h : p ∈ insert d key value) : p = (key, value) ∨ p ∈ d := by
  induction d with
  | nil => exact Or.inl (List.mem_singleton.mp h)
  | cons q d ih =>
      rcases q with ⟨k, v⟩
      rw [insert] at h
      split at h
      · rename_i hk
        rcases List.mem_cons.mp h with rfl | h
        · exact Or.inl (by rw [hk])
        · exact Or.inr (List.mem_cons_of_mem _ h)
      · rcases List.mem_cons.mp h with rfl | h
        · exact Or.inr List.mem_cons_self
        · exact (ih h).imp_right (List.mem_cons_of_mem _)

/-- What a name stands for is an entry. -/
theorem mem_of_get?_eq_some (d : Document) (key : String) (value : Value)
    (h : get? d key = some value) : (key, value) ∈ d := by
  induction d with
  | nil => nomatch h
  | cons p d ih =>
      rcases p with ⟨k, v⟩
      rw [get?] at h
      split at h
      · rename_i hk
        rw [← hk, ← Option.some.inj h]
        exact List.mem_cons_self
      · exact List.mem_cons_of_mem _ (ih h)

/-- If the names are distinct, each entry is what its name stands for. In
    general the first entry with a name hides the others. -/
theorem mem_iff_get?_eq_some (d : Document) (hd : Distinct d) (key : String) (value : Value) :
    (key, value) ∈ d ↔ get? d key = some value := by
  refine ⟨fun h => ?_, mem_of_get?_eq_some d key value⟩
  induction d with
  | nil => exact absurd h List.not_mem_nil
  | cons p d ih =>
      rcases p with ⟨k, v⟩
      simp only [Distinct, keys, List.map_cons, List.nodup_cons] at hd
      rcases List.mem_cons.mp h with heq | hmem
      · rw [(Prod.mk.inj heq).1, (Prod.mk.inj heq).2, get?, if_pos rfl]
      · -- A later entry has another name than this one.
        have hne : k ≠ key := by
          rintro rfl
          exact hd.1 (List.mem_map_of_mem hmem)
        rw [get?, if_neg hne]
        exact ih hd.2 hmem

/-- Documents that agree on every name have the same entries. -/
theorem perm_of_get?_eq (d e : Document) (hd : Distinct d) (he : Distinct e)
    (h : ∀ key, get? d key = get? e key) : d.Perm e := by
  refine (List.perm_ext_iff_of_nodup (List.Nodup.of_map _ hd) (List.Nodup.of_map _ he)).mpr ?_
  -- Entries are distinct as their names are, so membership is enough.
  rintro ⟨key, value⟩
  rw [mem_iff_get?_eq_some d hd, mem_iff_get?_eq_some e he, h]

theorem overlay_cons (d : Document) (p : String × Value) (other : Document) :
    overlay d (p :: other) = overlay (insert d p.1 p.2) other := rfl

/-- Overlays keep the names distinct, whatever the upper document is. -/
theorem distinct_overlay (d other : Document) (h : Distinct d) : Distinct (overlay d other) := by
  induction other generalizing d with
  | nil => exact h
  | cons p other ih =>
      -- Each insertion keeps the names distinct, so the lower document may be any.
      rw [overlay_cons]
      exact ih _ (distinct_insert d p.1 p.2 h)

theorem distinct_nil : Distinct [] := List.nodup_nil

theorem distinct_ofPairs (pairs : List (String × Value)) : Distinct (ofPairs pairs) :=
  distinct_overlay [] pairs distinct_nil

/-- The entries of an overlay come from one of the two documents. -/
theorem mem_of_mem_overlay (d other : Document) (p : String × Value)
    (h : p ∈ overlay d other) : p ∈ d ∨ p ∈ other := by
  induction other generalizing d with
  | nil => exact Or.inl h
  | cons q other ih =>
      rw [overlay_cons] at h
      rcases ih _ h with hins | hmem
      · rcases mem_insert_iff d q.1 q.2 p hins with rfl | hd
        · exact Or.inr List.mem_cons_self
        · exact Or.inl hd
      · exact Or.inr (List.mem_cons_of_mem _ hmem)

/-- What a name stands for in an overlay: the upper document counts first. -/
theorem get?_overlay (d other : Document) (key : String) (h : Distinct other) :
    get? (overlay d other) key = (get? other key).or (get? d key) := by
  induction other generalizing d with
  | nil => rfl
  | cons p other ih =>
      rcases p with ⟨k, v⟩
      simp only [Distinct, keys, List.map_cons, List.nodup_cons] at h
      -- The rest of the upper document lies over what the first entry has been put into.
      rw [overlay_cons, ih _ h.2, get?]
      by_cases hk : k = key
      · -- The name does not come again, so the value inserted here stays.
        subst hk
        rw [(get?_eq_none_iff other k).mpr h.1, if_pos rfl, get?_insert_self]
        rfl
      · rw [if_neg hk, get?_insert_of_ne d k key v (Ne.symm hk)]

/-- If no name is in both documents, one is put after the other. -/
theorem overlay_of_distinct (d other : Document) (h : Distinct (d ++ other)) :
    overlay d other = d ++ other := by
  induction other generalizing d with
  | nil => exact (List.append_nil d).symm
  | cons p other ih =>
      rcases p with ⟨k, v⟩
      -- The name is not in the lower document, so its entry comes last there.
      have hk : k ∉ keys d := by
        simp only [Distinct, keys, List.map_append, List.map_cons, List.nodup_append] at h
        exact fun hmem => h.2.2 k hmem k List.mem_cons_self rfl
      have happ : d ++ [(k, v)] ++ other = d ++ (k, v) :: other := by
        rw [List.append_assoc, List.singleton_append]
      rw [overlay_cons, insert_of_notMem d k v hk, ih _ (by rw [happ]; exact h), happ]

/-- Pairs with distinct names are a document as they are. -/
theorem ofPairs_of_distinct (pairs : List (String × Value)) (h : Distinct pairs) :
    ofPairs pairs = pairs := by
  rw [ofPairs, overlay_of_distinct [] pairs h, List.nil_append]

end Document

end DocQuery
