import DocQuery.Proofs.Request.Parameters

/-!
# Requests of Both Kinds

A request for a list and one for a single document name fields and relations in
the same way. The one for a list has its relations as names, each once. The one
for a single document has them as a text and finds them in it again, where blanks
are the only separators.

A name may be taken through such a text because whatever separates names in the
second reading does so in the first one, so no name has a blank in it. It does not
matter in which of its values a parameter lists a name, nor which separators stand
before and behind it.

The two differ in one point. A request for a list drops a name that comes twice,
and one for a single document has it twice and reads it twice. So the relations
of a list are stated as first occurrences of those of a single document, which
says both what is dropped and that nothing else is.

## Theorems

* `Request.kinds_agree`: Both kinds of requests have the same fields and the same
  relations.
-/

namespace DocQuery

namespace Request

/-- Both kinds of requests have the same fields, which are the first occurrences
    of the names under `fields`. The relations of a request for a single document
    are the names under `populate`, with none lost, put together with another one
    or moved, and those of a request for a list are their first occurrences. -/
theorem kinds_agree (params : Params) :
    (SingleRequest.ofParams params).fields = (ListRequest.ofParams params).fields ∧
      (∀ kept, FirstOccurrences (namesIn ((params.values? "fields").getD [])) kept ↔
        kept = (SingleRequest.ofParams params).fields) ∧
      (SingleRequest.ofParams params).relations =
        namesIn ((params.values? "populate").getD []) ∧
      ∀ kept, FirstOccurrences (SingleRequest.ofParams params).relations kept ↔
        kept = (ListRequest.ofParams params).populate := by
  have hfields : (SingleRequest.ofParams params).fields =
      (namesIn ((params.values? "fields").getD [])).eraseDups := by
    rw [← map_listed]
    rfl
  -- Fields are read by one function for both kinds, so the first part is true by
  -- definition.
  refine ⟨rfl, fun kept => ?_, ?_, fun kept => ?_⟩
  · rw [hfields]
    exact firstOccurrences_iff _ kept
  · rw [SingleRequest.relations_ofParams, map_listed]
  · rw [ListRequest.populate_ofParams]
    exact firstOccurrences_iff _ kept

-- Only a request for a list drops a name that comes twice.
example :
    let params := Params.ofPairs [("populate", "org,, roles"), ("populate", "\u2003org")]
    (SingleRequest.ofParams params).relations = ["org", "roles", "org"] ∧
      (ListRequest.ofParams params).populate = ["org", "roles"] := by
  decide

end Request

end DocQuery
