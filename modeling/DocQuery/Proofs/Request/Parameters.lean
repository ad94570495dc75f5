import DocQuery.Proofs.Request.Filters
import DocQuery.Proofs.Request.Identifier
import DocQuery.Proofs.Request.Names
import Mathlib.Data.List.Induction

/-!
# Grouped Parameters

A query string is a list of names with values, and its parameters are what is
left of this list when the values are grouped by their names. The names stand
in the order in which they first appear, each once, and the values of a name in
the order in which they stand in the list. So the parameters tell how each name
is used and when it comes for the first time, and nothing else.

Names that are listed within a value are found value by value, as the comma
that joins several values is a separator between names.

To keep each element once is done in two ways by the program, at once on a list
of names and step by step where pairs are added to parameters or keys to an
order. Both come to `List.eraseDups` by way of one lemma about folds
(`map_foldl_eraseDups`), and this list is then characterised by
`FirstOccurrences`, in terms that mention neither way.

## Main definitions

* `FirstOccurrences`: The elements of a list in the order in which they first
  occur.
* `valuesOf`: The values of a name in a list of names with values.
* `Request.namesIn`: The names in several values.

## Theorems

* `firstOccurrences_eraseDups`, `firstOccurrences_iff`, `map_foldl_eraseDups`:
  Keeping each element once, at once or step by step.
* `Params.names_ofPairs`, `values?_ofPairs`: The names and the values of
  parameters.
* `Request.keys_filters_ofPairs`, `get?_filters`: The filters of a request.
* `Request.map_listed`, `listed_ofPairs`: The names that a parameter lists.
-/

namespace DocQuery

section Occurrences

variable {α : Type} [DecidableEq α]

/-- The elements of a list, each once, in the order in which they first occur
    in it. -/
structure FirstOccurrences (xs kept : List α) : Prop where
  mem_iff : ∀ x, x ∈ kept ↔ x ∈ xs
  ordered : kept.Pairwise fun a b => xs.idxOf a < xs.idxOf b

theorem FirstOccurrences.nodup {xs kept : List α} (h : FirstOccurrences xs kept) :
    kept.Nodup := by
  refine h.ordered.imp ?_
  rintro a b hlt rfl
  exact Nat.lt_irrefl _ hlt

/-- A last element is kept only if it is new. -/
theorem eraseDups_concat (xs : List α) (x : α) :
    (xs ++ [x]).eraseDups = if x ∈ xs then xs.eraseDups else xs.eraseDups ++ [x] := by
  rw [List.eraseDups_append]
  -- The last element is dropped exactly if it has been there before.
  by_cases hx : x ∈ xs
  · have hnone : [x].removeAll xs = [] := by simp [List.removeAll, hx]
    rw [if_pos hx, hnone, List.eraseDups_nil, List.append_nil]
  · have hself : [x].removeAll xs = [x] := by simp [List.removeAll, hx]
    rw [if_neg hx, hself, List.eraseDups_cons, List.filter_nil, List.eraseDups_nil]

/-- To keep each element of a list once is to keep its first occurrences. -/
theorem firstOccurrences_eraseDups (xs : List α) : FirstOccurrences xs xs.eraseDups := by
  -- From the end, as a first occurrence is one whatever comes after it.
  induction xs using List.reverseRecOn with
  | nil => exact ⟨fun x => Iff.rfl, List.Pairwise.nil⟩
  | append_singleton xs x ih =>
      refine ⟨fun y => List.mem_eraseDups, ?_⟩
      -- An element that is there already keeps its place when another one comes last.
      have hkept : ∀ y ∈ xs.eraseDups, (xs ++ [x]).idxOf y = xs.idxOf y := by
        intro y hy
        exact List.idxOf_append_of_mem ((ih.mem_iff y).mp hy)
      have hordered :
          xs.eraseDups.Pairwise fun a b => (xs ++ [x]).idxOf a < (xs ++ [x]).idxOf b := by
        refine ih.ordered.imp_of_mem ?_
        intro a b ha hb hlt
        rw [hkept a ha, hkept b hb]
        exact hlt
      rw [eraseDups_concat]
      by_cases hx : x ∈ xs
      · rw [if_pos hx]
        exact hordered
      · rw [if_neg hx, List.pairwise_append]
        refine ⟨hordered, List.pairwise_singleton _ _, ?_⟩
        -- A new element is behind all that have been there.
        intro a ha b hb
        rw [List.mem_singleton.mp hb, hkept a ha, List.idxOf_append_of_notMem hx]
        have hlt := List.idxOf_lt_length_of_mem ((ih.mem_iff a).mp ha)
        omega

/-- A list has its first occurrences in one order only. -/
theorem firstOccurrences_iff (xs kept : List α) :
    FirstOccurrences xs kept ↔ kept = xs.eraseDups := by
  constructor
  · intro h
    have hfirst := firstOccurrences_eraseDups xs
    have hperm : kept.Perm xs.eraseDups :=
      (List.perm_ext_iff_of_nodup h.nodup hfirst.nodup).mpr fun x =>
        (h.mem_iff x).trans (hfirst.mem_iff x).symm
    -- Two orders of the same elements by the same strict order are equal.
    refine hperm.eq_of_pairwise ?_ h.ordered hfirst.ordered
    intro a b _ _ hab hba
    exact absurd hab (Nat.lt_asymm hba)
  · rintro rfl
    exact firstOccurrences_eraseDups xs

/-- A state that takes in elements one by one, and each of them only if it does
    not have it yet, has each element once. -/
theorem map_foldl_eraseDups {σ β : Type} (view : σ → List α) (key : β → α) (step : σ → β → σ)
    (hstep : ∀ s b, view (step s b) = if key b ∈ view s then view s else view s ++ [key b])
    (s : σ) (hs : view s = []) (bs : List β) :
    view (bs.foldl step s) = (bs.map key).eraseDups := by
  induction bs using List.reverseRecOn with
  | nil => rw [List.foldl_nil, hs, List.map_nil, List.eraseDups_nil]
  | append_singleton bs b ih =>
      rw [List.foldl_concat, hstep, ih, List.map_append, List.map_singleton, eraseDups_concat]
      simp only [List.mem_eraseDups]

/-- The values of a name in a list of names with values. -/
def valuesOf {β : Type} (pairs : List (α × β)) (name : α) : List β :=
  (pairs.filter fun p => p.1 = name).map Prod.snd

theorem valuesOf_append {β : Type} (first second : List (α × β)) (name : α) :
    valuesOf (first ++ second) name = valuesOf first name ++ valuesOf second name := by
  rw [valuesOf, List.filter_append, List.map_append]
  rfl

end Occurrences

namespace Params

/-- A value under a known name adds no name, and any other one adds its name at
    the end. -/
theorem names_append (params : Params) (name value : String) :
    (append params name value).map Prod.fst =
      if name ∈ params.map Prod.fst then params.map Prod.fst
      else params.map Prod.fst ++ [name] := by
  induction params with
  | nil => rfl
  | cons p params ih =>
      rcases p with ⟨k, values⟩
      rw [append]
      by_cases hk : k = name
      · subst hk
        rw [if_pos rfl, List.map_cons, List.map_cons, if_pos List.mem_cons_self]
      · rw [if_neg hk, List.map_cons, List.map_cons, ih]
        -- The name may still be found further on.
        by_cases hmem : name ∈ params.map Prod.fst
        · rw [if_pos hmem, if_pos (List.mem_cons_of_mem k hmem)]
        · rw [if_neg hmem, if_neg (by simp [Ne.symm hk, hmem]), List.cons_append]

/-- The names of the parameters are those of the pairs, each once. -/
theorem names_ofPairs (pairs : List (String × String)) :
    (ofPairs pairs).map Prod.fst = (pairs.map Prod.fst).eraseDups :=
  map_foldl_eraseDups (fun params : Params => params.map Prod.fst) Prod.fst _
    (fun params p => names_append params p.1 p.2) [] rfl pairs

theorem nodup_names_ofPairs (pairs : List (String × String)) :
    ((ofPairs pairs).map Prod.fst).Nodup := by
  rw [names_ofPairs]
  exact (firstOccurrences_eraseDups _).nodup

/-- A parameter has the values that stand under its name. -/
theorem values?_ofPairs (pairs : List (String × String)) (name : String) :
    values? (ofPairs pairs) name =
      if valuesOf pairs name = [] then none else some (valuesOf pairs name) := by
  induction pairs using List.reverseRecOn with
  | nil => rfl
  | append_singleton pairs p ih =>
      rcases p with ⟨k, value⟩
      have hfold : ofPairs (pairs ++ [(k, value)]) = append (ofPairs pairs) k value :=
        List.foldl_concat _ _ _ _
      rw [hfold, valuesOf_append]
      by_cases hk : k = name
      · -- The parameter gets one more value, which may be its first.
        subst hk
        have hlast : valuesOf [(k, value)] k = [value] := by simp [valuesOf]
        have hbefore : (values? (ofPairs pairs) k).getD [] = valuesOf pairs k := by
          rw [ih]
          by_cases hnil : valuesOf pairs k = []
          · rw [if_pos hnil, hnil, Option.getD_none]
          · rw [if_neg hnil, Option.getD_some]
        rw [values?_append_self, hbefore, hlast, if_neg (by simp)]
      · -- A value of another name changes nothing.
        have hlast : valuesOf [(k, value)] name = [] := by simp [valuesOf, hk]
        rw [values?_append_of_ne _ _ _ _ (Ne.symm hk), ih, hlast, List.append_nil]

end Params

namespace Request

/-- The filters of parameters with distinct names, one for each parameter that
    is a filter. -/
theorem filters_of_nodup (params : Params) (h : (params.map Prod.fst).Nodup) :
    filters params = (params.filter fun p => isFilterName p.1).map fun p =>
      (p.1, filterValue (Params.join p.2)) := by
  apply Document.ofPairs_of_distinct
  unfold Document.Distinct Document.keys
  rw [List.map_map]
  exact h.sublist (List.filter_sublist.map Prod.fst)

/-- The fields with a filter are the names of the pairs that are no names of
    something else, each once. -/
theorem keys_filters_ofPairs (pairs : List (String × String)) :
    (filters (Params.ofPairs pairs)).keys =
      ((pairs.map Prod.fst).filter isFilterName).eraseDups := by
  rw [← filter_eraseDups, ← Params.names_ofPairs, List.filter_map,
    filters_of_nodup _ (Params.nodup_names_ofPairs pairs), Document.keys, List.map_map]
  rfl

/-- The filter of a name is made of the values of its parameter, if the name is
    one for filters. -/
theorem get?_filters (params : Params) (h : (params.map Prod.fst).Nodup) (name : String) :
    (filters params).get? name =
      if isFilterName name then
        (params.values? name).map fun values => filterValue (Params.join values)
      else none := by
  rw [filters_of_nodup params h]
  clear h
  induction params with
  | nil => simp [Document.get?, Params.values?]
  | cons p params ih =>
      rcases p with ⟨k, values⟩
      rw [List.filter_cons]
      by_cases hfilter : isFilterName k = true
      · rw [if_pos hfilter, List.map_cons, Document.get?, Params.values?]
        -- The first parameter with the name is the only one.
        by_cases hk : k = name
        · rw [if_pos hk, if_pos hk, ← hk, if_pos hfilter, Option.map_some]
        · rw [if_neg hk, if_neg hk, ih]
      · rw [if_neg hfilter, ih, Params.values?]
        by_cases hk : k = name
        · rw [← hk, if_neg hfilter, if_neg hfilter]
        · rw [if_neg hk]

/-- The names that several values list, one value after the other. -/
theorem names_join (values : List String) :
    names (Params.join values) = values.flatMap fun value => names value.toList := by
  induction values with
  | nil => rfl
  | cons value values ih =>
      rcases values with _ | ⟨next, values⟩
      · rw [Params.join, List.map_singleton, List.intercalate_singleton, List.flatMap_singleton]
      · -- The comma between two values ends the names of the first one.
        have hjoin : Params.join (value :: next :: values) =
            value.toList ++ ',' :: Params.join (next :: values) := by
          rw [Params.join, List.map_cons, List.map_cons, List.intercalate_cons_cons,
            List.append_assoc, List.singleton_append]
          rfl
        rw [hjoin, names, Text.tokens_append _ _ _ ',' (by decide), List.flatMap_cons, ← ih]
        rfl

/-- The names in several values, one value after the other. -/
def namesIn (values : List String) : List String :=
  values.flatMap fun value => (names value.toList).map String.ofList

/-- A parameter lists the names in its values, and one that is not there lists
    none. -/
theorem listed_eq (params : Params) (name : String) :
    listed params name =
      ((params.values? name).getD []).flatMap fun value => names value.toList := by
  unfold listed Params.get?
  rcases params.values? name with _ | values
  · rfl
  · rw [Option.map_some, Option.getD_some, Option.getD_some, names_join]

theorem map_listed (params : Params) (name : String) :
    (listed params name).map String.ofList = namesIn ((params.values? name).getD []) := by
  rw [listed_eq, List.map_flatMap]
  rfl

/-- A parameter of grouped pairs lists the names in the values of the pairs. -/
theorem listed_ofPairs (pairs : List (String × String)) (name : String) :
    listed (Params.ofPairs pairs) name =
      (valuesOf pairs name).flatMap fun value => names value.toList := by
  rw [listed_eq, Params.values?_ofPairs]
  split
  · rename_i hnil
    rw [hnil]
    rfl
  · rfl

end Request

end DocQuery
