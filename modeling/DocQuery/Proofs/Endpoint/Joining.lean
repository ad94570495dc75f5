import DocQuery.Proofs.Endpoint.Expansion
import DocQuery.Proofs.Pipeline.Join

/-!
# What Relations Find

The stages of a relation never fail, and take the documents one by one in their
order. A document gets the list of the documents that are found for it, in the
order of their collection. For a single relation there is one document in its
place for each that is found, with this one in it. If none is found the document
stays, and has nothing at the name of the relation, whatever was there before.

Which documents are found is said by a relation between values, `Value.Meets`,
and so without the function that joins. The list of what is found is a filter of
the collection, which fixes both its order and how often a document is in it.
For a single relation the result speaks of the places that documents take, as
one document may take several.

## Main definitions

* `Relation.Finds`: Does a document belong to another one?
* `Relation.found`: The documents of a collection that belong to a document.

## Theorems

* `Relation.partners_eq_found`: What is joined is what is found.
* `Relation.expand_of_many`, `expand_of_single`, `expand_of_none`: What stands
  in the place of a document.
* `Relation.runAll_stages_found`: What the stages of a relation make of documents.
-/

namespace DocQuery

namespace Relation

/-- Does another document belong to a document? The values at the two fields
    meet, where a missing value is null. -/
def Finds (r : Relation) (d other : Document) : Prop :=
  ((d.at? (Path.ofString r.localField)).getD .null).Meets
    ((other.at? (Path.ofString r.foreignField)).getD .null)

instance (r : Relation) (d other : Document) : Decidable (r.Finds d other) :=
  inferInstanceAs (Decidable (Value.Meets _ _))

/-- The documents that belong to a document, in their order. -/
def found (r : Relation) (stored : List Document) (d : Document) : List Document :=
  stored.filter fun other => r.Finds d other

/-- What is joined to a document is what is found for it. -/
theorem partners_eq_found (r : Relation) (stored : List Document) (d : Document) :
    r.join.partners stored d = r.found stored d := by
  refine List.filter_congr fun other _ => ?_
  rw [Bool.eq_iff_iff, decide_eq_true_iff]
  exact Value.joins_iff _ _

/-- To many, a document stays one document and has the list of all that are
    found. -/
theorem expand_of_many (r : Relation) (stored : List Document) (d : Document)
    (h : r.single = false) : r.expand stored d =
      [d.setAt (Path.ofString r.name) (.array ((r.found stored d).map .document))] := by
  rw [← partners_eq_found]
  exact if_neg (Bool.eq_false_iff.mp h)

/-- The list of the documents that are found is put into the document first, but
    nothing is left of it. -/
theorem expand_of_single (r : Relation) (stored : List Document) (d : Document)
    (h : r.single = true) (hfound : r.found stored d ≠ []) : r.expand stored d =
      (r.found stored d).map fun other => d.setAt (Path.ofString r.name) (.document other) := by
  rw [← partners_eq_found] at hfound ⊢
  unfold expand
  rw [if_pos h]
  -- The list is not empty, so unwinding writes each element in its place.
  rcases hlist : r.join.partners stored d with _ | ⟨partner, partners⟩
  · exact absurd hlist hfound
  · exact List.map_congr_left fun other _ => Document.setAt_setAt d _ _ _

/-- To one, a document for which none is found stays and has nothing at the
    name, whatever was written there before. -/
theorem expand_of_none (r : Relation) (stored : List Document) (d : Document)
    (h : r.single = true) (hfound : r.found stored d = []) (v : Value) : r.expand stored d =
      [(d.setAt (Path.ofString r.name) v).removeAt (Path.ofString r.name)] := by
  rw [← partners_eq_found] at hfound
  unfold expand
  rw [if_pos h, hfound]
  exact congrArg (fun e => [e])
    (Document.removeAt_setAt_congr d _ _ v (Path.ofString_ne_nil r.name))

/-- The stages of a relation go through on all documents. To many, they put into
    each document, in order, the list of the documents that are found for it. To
    one, each document makes room for as many as are found for it, each with one
    of these in it, and for itself without anything there if none is found. -/
theorem runAll_stages_found (r : Relation) (collection : String → List Document)
    (docs : List Document) :
    (r.single = false →
      Stage.runAll collection (r.stages.map Stage.ofDocument) docs =
        .ok (docs.map fun d => d.setAt (Path.ofString r.name)
          (.array ((r.found (collection r.collection) d).map .document)))) ∧
    (r.single = true →
      ∃ places : Document → List Document,
        Stage.runAll collection (r.stages.map Stage.ofDocument) docs = .ok (docs.flatMap places) ∧
        ∀ d,
          (r.found (collection r.collection) d ≠ [] →
            places d = (r.found (collection r.collection) d).map fun other =>
              d.setAt (Path.ofString r.name) (.document other)) ∧
          (r.found (collection r.collection) d = [] → ∀ v,
            places d = [(d.setAt (Path.ofString r.name) v).removeAt (Path.ofString r.name)] ∧
            ((d.setAt (Path.ofString r.name) v).removeAt (Path.ofString r.name)).at?
              (Path.ofString r.name) = none)) := by
  have hrun := runAll_stages collection r docs
  constructor
  · intro h
    rw [hrun, List.map_eq_flatMap]
    exact congrArg _ (List.flatMap_congr fun d _ => r.expand_of_many _ d h)
  · intro h
    -- The places of a document are the documents that the relation makes of it.
    refine ⟨r.expand (collection r.collection), hrun, fun d => ⟨?_, ?_⟩⟩
    · exact r.expand_of_single _ d h
    · intro hfound v
      exact ⟨r.expand_of_none _ d h hfound v,
        Document.at?_removeAt_setAt d _ v (Path.ofString_ne_nil r.name)⟩

end Relation

end DocQuery
