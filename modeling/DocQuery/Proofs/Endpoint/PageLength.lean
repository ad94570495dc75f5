import DocQuery.Proofs.Endpoint.Pages
import Mathlib.Algebra.Order.BigOperators.Group.List

/-!
# The Length of a Page

A limit bounds the number of documents on a page before relations are expanded,
and not the number of entries that are returned. Each document stands for one
entry at least, and for more if a single relation finds several documents that
belong to it, as each of these makes an entry of its own.

So a page is as long as its documents exactly if every single relation finds
one partner at most whenever it is expanded, and in this case it never exceeds
the limit.

The condition is exact, and it is on what happens when relations are expanded
rather than on the stored documents. A relation starts from a document that
earlier relations have changed, so whether it finds several partners is asked of
that document. `Relation.SingleValued` follows the expansion for this reason,
one relation after the other, with one case for each document that has come out
so far.

## Main definitions

* `Relation.SingleValued`: Single relations that find one partner at most.

## Theorems

* `length_le_length_flatMap`, `length_flatMap_eq_iff`: How many parts a list
  comes to.
* `Relation.length_expandAll_eq_one_iff`: What a document stands for.
* `Profile.length_page`: The length of a page.
* `Profile.length_page_exceeds`: A page that is longer than its limit.
-/

namespace DocQuery

section Lengths

variable {α β : Type}

/-- A list of parts that are not empty is as long as the parts are many. -/
theorem length_le_length_flatMap (f : α → List β) (xs : List α) (h : ∀ x ∈ xs, f x ≠ []) :
    xs.length ≤ (xs.flatMap f).length := by
  -- The length is the sum of the lengths of the parts.
  have hparts : ∀ n ∈ xs.map fun x => (f x).length, 1 ≤ n := by
    intro n hn
    rcases List.mem_map.mp hn with ⟨x, hx, rfl⟩
    exact List.length_pos_of_ne_nil (h x hx)
  have hsum := List.length_le_sum_of_one_le _ hparts
  rw [List.length_map, ← List.length_flatMap] at hsum
  exact hsum

/-- It is longer unless every part is a single element. -/
theorem length_flatMap_eq_iff (f : α → List β) (xs : List α) (h : ∀ x ∈ xs, f x ≠ []) :
    (xs.flatMap f).length = xs.length ↔ ∀ x ∈ xs, (f x).length = 1 := by
  induction xs with
  | nil => simp
  | cons x xs ih =>
      rw [List.forall_mem_cons] at h
      have hx := List.length_pos_of_ne_nil h.1
      have hxs := length_le_length_flatMap f xs h.2
      rw [List.forall_mem_cons, ← ih h.2, List.flatMap_cons, List.length_append, List.length_cons]
      omega

end Lengths

namespace Relation

variable (collection : String → List Document)

/-- Does each of some relations, one after the other, find one partner at most
    if it is a single one? Later relations start from what the earlier ones have
    made of the document. -/
def SingleValued : List Relation → Document → Prop
  | [], _ => True
  | r :: relations, d =>
    (r.single = true → (r.join.partners (collection r.collection) d).length ≤ 1) ∧
      ∀ e ∈ r.expand (collection r.collection) d, SingleValued relations e

theorem length_expand_eq_one_iff (r : Relation) (foreign : List Document) (d : Document) :
    (r.expand foreign d).length = 1 ↔
      (r.single = true → (r.join.partners foreign d).length ≤ 1) := by
  unfold expand
  by_cases hsingle : r.single = true
  · -- There is one document for each partner, and one if there is none.
    simp only [if_pos hsingle]
    rw [imp_iff_right hsingle]
    rcases r.join.partners foreign d with _ | ⟨partner, partners⟩
    · simp
    · simp only [List.length_map, List.length_cons]
      omega
  · simp [hsingle]

/-- A document stands for one entry exactly if no single relation finds more
    than one partner. -/
theorem length_expandAll_eq_one_iff (relations : List Relation) (d : Document) :
    (expandAll collection relations d).length = 1 ↔ SingleValued collection relations d := by
  induction relations generalizing d with
  | nil => simp [expandAll, SingleValued]
  | cons r relations ih =>
      have hne : ∀ e ∈ r.expand (collection r.collection) d,
          expandAll collection relations e ≠ [] :=
        fun e _ => expandAll_ne_nil collection relations e
      have hpos := List.length_pos_of_ne_nil (r.expand_ne_nil (collection r.collection) d)
      -- Each document that the first relation makes stands for one at least in the end.
      have hle := length_le_length_flatMap _ _ hne
      have hparts := length_flatMap_eq_iff _ _ hne
      rw [expandAll, SingleValued, ← length_expand_eq_one_iff]
      -- The first relation makes one document, or else there are more in the end.
      constructor
      · intro hone
        have hfirst : (r.expand (collection r.collection) d).length = 1 := by omega
        refine ⟨hfirst, ?_⟩
        intro e he
        exact (ih e).mp (hparts.mp (by omega) e he)
      · rintro ⟨hfirst, hrest⟩
        rw [hparts.mpr fun e he => (ih e).mpr (hrest e he), hfirst]

end Relation

namespace Listing

theorem length_cut_le {α : Type} (r : ListRequest) (limit : Nat) (h : r.limit = some limit)
    (xs : List α) : (cut r xs).length ≤ limit := by
  unfold cut
  rw [h]
  simp only [List.length_take]
  omega

end Listing

namespace Profile

/-- The length of a page. The documents that are on it are as many as the limit
    at most, and each of them stands for one entry at least. There are no more
    entries than documents exactly if the single relations that are asked for
    find one partner at most, and then the limit bounds the entries too. -/
theorem length_page (p : Profile) (s : Store) (name : String) (query : List Char)
    (r : ListRequest) (hr : ListRequest.ofParams (Params.parse query) = r)
    (limit : Nat) (hlimit : r.limit = some limit)
    (hstatus : (p.handle (Call.list query) (s.answer name)).status = 200) :
    ∃ (entries : List Json) (total : Nat) (shown : List Document),
      p.handle (Call.list query) (s.answer name) =
        .ok p.retrieved (.array entries) (some (.make r.page (some limit) total)) ∧
      (p.listing r).shown (s.documents name) = some shown ∧
      shown.length ≤ limit ∧
      shown.length ≤ entries.length ∧
      (entries.length = shown.length ↔
        ∀ d ∈ shown, Relation.SingleValued s.documents (p.relationsNamed r.populate) d) ∧
      ((∀ d ∈ shown, Relation.SingleValued s.documents (p.relationsNamed r.populate) d) →
        entries.length ≤ limit) := by
  rcases p.handle_list_of_status s name query r hr hstatus with
    ⟨shown, data, hshown, hdecode, hresponse⟩
  -- Every document with its relations expanded is decoded into one entry.
  have hlength : (data.map p.present).length =
      (shown.flatMap (Relation.expandAll s.documents (p.relationsNamed r.populate))).length := by
    rw [List.length_map]
    exact ((mapM_eq_some_iff _ _ _).mp hdecode).length_eq.symm
  have hne : ∀ d ∈ shown, Relation.expandAll s.documents (p.relationsNamed r.populate) d ≠ [] :=
    fun d _ => Relation.expandAll_ne_nil s.documents _ d
  have hcut : shown.length ≤ limit := by
    rcases Listing.shown_eq_some_iff.mp hshown with ⟨sorted, -, rfl⟩
    exact Listing.length_cut_le (p.listing r).request limit hlimit _
  have hiff : (data.map p.present).length = shown.length ↔
      ∀ d ∈ shown, Relation.SingleValued s.documents (p.relationsNamed r.populate) d := by
    rw [hlength, length_flatMap_eq_iff _ _ hne]
    simp only [Relation.length_expandAll_eq_one_iff]
  refine ⟨data.map p.present, _, shown, hlimit ▸ hresponse, hshown, hcut, ?_, hiff, ?_⟩
  · rw [hlength]
    exact length_le_length_flatMap _ _ hne
  · intro hsingle
    rw [hiff.mpr hsingle]
    exact hcut

/-- A store with a person in two teams and one in a single team. -/
def teamStore : Store where
  collections :=
    [("people",
      [[("_id", .int32 1), ("team", .array [.int32 7, .int32 8])],
       [("_id", .int32 2), ("team", .int32 7)]]),
     ("teams", [[("_id", .int32 7)], [("_id", .int32 8)]])]
  supply := .counting ⟨0⟩

theorem length_page_sample :
    (ListRequest.ofParams (Params.parse "page=2&limit=1&populate=team".toList)).limit = some 1 ∧
      (sampleProfile.handle (Call.list "page=2&limit=1&populate=team".toList)
        (teamStore.answer "people")).status = 200 ∧
      ∃ (entries : List Json) (total : Nat),
        sampleProfile.handle (Call.list "page=2&limit=1&populate=team".toList)
            (teamStore.answer "people") =
          .ok "people retrieved successfully" (.array entries)
            (some (.make (some 2) (some 1) total)) ∧
        entries.length ≤ 1 := by
  have hparse : Params.parse "page=2&limit=1&populate=team".toList =
      [("page", ["2"]), ("limit", ["1"]), ("populate", ["team"])] := by
    have hquery : "page=2&limit=1&populate=team".toList =
        ("page".toList ++ '=' :: "2".toList) ++ '&' :: ("limit".toList ++ '=' :: "1".toList) ++
          '&' :: ("populate".toList ++ '=' :: "team".toList) := rfl
    rw [hquery, Params.parse_append_literal _ _ _ (by decide) (by decide),
      Params.parse_append_literal _ _ _ (by decide) (by decide),
      Params.parse_literal _ _ (by decide) (by decide)]
    rfl
  have hlimit : (ListRequest.ofParams (Params.parse
      "page=2&limit=1&populate=team".toList)).limit = some 1 := by
    rw [hparse]
    decide
  have hpage : (ListRequest.ofParams (Params.parse
      "page=2&limit=1&populate=team".toList)).page = some 2 := by
    rw [hparse]
    decide
  have hshown : (sampleProfile.listingFor (Params.parse
      "page=2&limit=1&populate=team".toList)).shown (teamStore.documents "people") =
        some [[("_id", .int32 2), ("team", .int32 7)]] := by
    rw [hparse]
    rfl
  have hstatus : (sampleProfile.handle (Call.list "page=2&limit=1&populate=team".toList)
      (teamStore.answer "people")).status = 200 := by
    have hmatch : (sampleProfile.listingFor (Params.parse
        "page=2&limit=1&populate=team".toList)).Matches teamStore "people" :=
      matches_of_get?_eq_none _ _ _ (by rw [hparse]; rfl)
    rw [handle_list teamStore "people" sampleProfile _ _ rfl
      (Store.forall_documents teamStore (by decide)) (by decide) hmatch
      (by rw [hparse]; decide), hshown]
    rfl
  rcases length_page sampleProfile teamStore "people" "page=2&limit=1&populate=team".toList _ rfl
    1 hlimit hstatus with ⟨entries, total, shown, hresponse, hsome, -, -, -, hle⟩
  rw [hpage] at hresponse
  refine ⟨hlimit, hstatus, entries, total, hresponse, hle ?_⟩
  -- The second page has the person in a single team.
  intro d hd
  rw [hshown, Option.some.injEq] at hsome
  rw [← hsome, List.mem_singleton] at hd
  rw [hd, ← Relation.length_expandAll_eq_one_iff, hparse]
  decide

/-- A single relation that finds two documents makes two entries of one, on a
    page with room for one. -/
theorem length_page_exceeds :
    (ListRequest.ofParams (Params.parse "limit=1&populate=team".toList)).limit = some 1 ∧
      sampleProfile.handle (Call.list "limit=1&populate=team".toList)
          (teamStore.answer "people") =
        .ok "people retrieved successfully"
          (.array ([[("_id", .int32 1), ("team", .document [("_id", .int32 7)])],
            [("_id", .int32 1), ("team", .document [("_id", .int32 8)])]].map fun d =>
              (Value.document d).plain))
          (some ⟨1, 1, 2, 2⟩) := by
  have hparse : Params.parse "limit=1&populate=team".toList =
      [("limit", ["1"]), ("populate", ["team"])] := by
    have hquery : "limit=1&populate=team".toList = ("limit".toList ++ '=' :: "1".toList) ++
        '&' :: ("populate".toList ++ '=' :: "team".toList) := rfl
    rw [hquery, Params.parse_append_literal _ _ _ (by decide) (by decide),
      Params.parse_literal _ _ (by decide) (by decide)]
    rfl
  refine ⟨by rw [hparse]; decide, ?_⟩
  rw [handle_list teamStore "people" sampleProfile _ _ rfl
    (Store.forall_documents teamStore (by decide)) (by decide)
    (matches_of_get?_eq_none _ _ _ (by rw [hparse]; rfl)) (by rw [hparse]; decide), hparse]
  rfl

end Profile

end DocQuery
