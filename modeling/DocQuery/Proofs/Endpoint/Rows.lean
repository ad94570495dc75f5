import DocQuery.Proofs.Endpoint.Answer
import DocQuery.Proofs.Endpoint.Redaction
import DocQuery.Proofs.Request.Names

/-!
# What a Projection Leaves

A field that is picked puts a value beneath its first name and leaves the other
names alone. So what is under a name depends on the fields that start with it,
and on whether any field is picked at all: the identifier alone is no choice and
leaves the document as it is.

The relations of a request have the fields that they start from added to the
fields that are chosen, as they could not be followed otherwise. A field of one
relation is lost on the others unless it starts with a name that they look at,
so under such a name a request leaves what it leaves for one relation alone, if
the others add nothing but the field of this relation there.

Whether fields are chosen at all is looked at on its own, as any name may decide
it: one more field changes nothing under the other names, but the first one
takes away everything that is not picked. The identifier is the exception, as it
is always kept and is no choice of fields.

## Theorems

* `Document.get?_pick_congr`: What is under a name depends on the fields that
  start with it.
* `Document.get?_pick_identifier`: The identifier is kept.
* `Document.distinct_pick`: Names stay distinct.
* `Profile.get?_pick_withLocalFields`, `get?_pick_localField`: The fields of other
  relations make no difference under a name.
-/

namespace DocQuery

namespace Document

theorem get?_addField_of_ne (d out : Document) (field name : String)
    (h : Path.first field ≠ name) : (addField d out field).get? name = out.get? name := by
  rcases Path.ofString_eq_cons field with ⟨rest, hrest⟩
  unfold addField Projection.put
  split
  · rw [hrest]
    exact get?_setAt_of_ne out _ name rest _ h.symm
  · rfl

theorem get?_addField_congr (d out other : Document) (field name : String)
    (h : out.get? name = other.get? name) :
    (addField d out field).get? name = (addField d other field).get? name := by
  -- Either the field is beneath the name and its value is put there, or nothing changes.
  by_cases hname : Path.first field = name
  · rcases Path.ofString_eq_cons field with ⟨rest, hrest⟩
    unfold addField Projection.put
    split
    · rw [hrest, hname]
      exact get?_setAt_congr out other name rest _ (Or.inr h)
    · exact h
  · rw [get?_addField_of_ne d out field name hname, get?_addField_of_ne d other field name hname, h]

/-- Fields with another first name make no difference. -/
theorem get?_foldl_addField (d out other : Document) (fields : List String) (name : String)
    (h : out.get? name = other.get? name) :
    (fields.foldl (addField d) out).get? name =
      ((fields.filter fun field => Path.first field = name).foldl (addField d) other).get?
        name := by
  induction fields generalizing out other with
  | nil => exact h
  | cons field fields ih =>
      rw [List.foldl_cons, List.filter_cons]
      by_cases hname : Path.first field = name
      · rw [if_pos (decide_eq_true hname), List.foldl_cons]
        exact ih _ _ (get?_addField_congr d out other field name h)
      · rw [if_neg (by simpa using hname)]
        exact ih _ _ ((get?_addField_of_ne d out field name hname).trans h)

theorem pick_eq (fields : List String) (d : Document) :
    d.pick fields = if ∃ field ∈ fields, field ≠ "_id" then
      (fields.filter fun field => field ≠ "_id").foldl (addField d) (Projection.identifierOf d)
    else d := by
  unfold pick
  split
  · rename_i hnone
    rw [if_neg]
    rintro ⟨field, hfield, hne⟩
    exact (List.filter_eq_nil_iff.mp hnone) field hfield (decide_eq_true hne)
  · rename_i hsome
    rw [if_pos]
    -- What is left after the identifier is taken out is a field of its own.
    rcases List.exists_mem_of_ne_nil _ hsome with ⟨field, hfield⟩
    exact ⟨field, List.mem_of_mem_filter hfield, of_decide_eq_true (List.mem_filter.mp hfield).2⟩

/-- What is under a name in the end depends on the fields that start with it,
    and on whether fields are chosen at all. -/
theorem get?_pick_congr (fields other : List String) (d : Document) (name : String)
    (hchosen : (∃ field ∈ fields, field ≠ "_id") ↔ ∃ field ∈ other, field ≠ "_id")
    (h : (fields.filter fun field => Path.first field = name) =
      other.filter fun field => Path.first field = name) :
    (d.pick fields).get? name = (d.pick other).get? name := by
  rw [pick_eq, pick_eq]
  by_cases hfields : ∃ field ∈ fields, field ≠ "_id"
  · rw [if_pos hfields, if_pos (hchosen.mp hfields), get?_foldl_addField d _ _ _ name rfl,
      get?_foldl_addField d _ _ (other.filter _) name rfl, List.filter_comm, h, List.filter_comm]
  · rw [if_neg hfields, if_neg (mt hchosen.mpr hfields)]

theorem get?_identifierOf (d : Document) :
    (Projection.identifierOf d).get? "_id" = d.get? "_id" := by
  unfold Projection.identifierOf
  split
  · rename_i v hv
    rw [hv, get?, if_pos rfl]
  · rename_i hnone
    rw [hnone, get?]

/-- The identifier is kept, unless something beneath it is picked. -/
theorem get?_pick_identifier (fields : List String) (d : Document)
    (h : ∀ field ∈ fields, Path.first field = "_id" → field = "_id") :
    (d.pick fields).get? "_id" = d.get? "_id" := by
  rw [pick_eq]
  split
  · have hnone : ((fields.filter fun field => field ≠ "_id").filter fun field =>
        Path.first field = "_id") = [] := by
      rw [List.filter_eq_nil_iff]
      intro field hfield hfirst
      have hmem := List.mem_filter.mp hfield
      exact of_decide_eq_true hmem.2 (h field hmem.1 (of_decide_eq_true hfirst))
    rw [get?_foldl_addField d _ _ _ "_id" rfl, hnone]
    exact get?_identifierOf d
  · rfl

theorem distinct_identifierOf (d : Document) : (Projection.identifierOf d).Distinct := by
  unfold Projection.identifierOf
  split
  · exact List.nodup_singleton _
  · exact distinct_nil

theorem distinct_pick (fields : List String) (d : Document) (hd : d.Distinct) :
    (d.pick fields).Distinct := by
  apply holds_pick Distinct fields d hd (distinct_identifierOf d)
  intro field _ out hout
  unfold addField Projection.put
  split
  · exact distinct_setAt out _ _ hout
  · exact hout

end Document

namespace Profile

variable (chosen : List String) (relations : List Relation) (relation : Relation)
  (hmem : relation ∈ relations)

theorem mem_withLocalFields (hchosen : chosen ≠ []) (field : String) :
    field ∈ withLocalFields chosen relations ↔
      field ∈ chosen ∨ ∃ other ∈ relations, other.localField = field := by
  unfold withLocalFields including
  rw [if_neg (by simpa using hchosen), List.mem_eraseDups, List.mem_append, List.mem_map]

include hmem

/-- Under a name where relations add nothing but the field of one of them, the
    fields are those that are picked for this relation alone. -/
theorem filter_withLocalFields (name : String)
    (h : ∀ other ∈ relations, Path.first other.localField = name →
      other.localField = relation.localField) :
    (withLocalFields chosen relations).filter (fun field => Path.first field = name) =
      (withLocalFields chosen [relation]).filter fun field => Path.first field = name := by
  have hlocal : ((relations.map Relation.localField).filter fun field =>
      Path.first field = name).eraseDups =
        ([relation.localField].filter fun field => Path.first field = name).eraseDups := by
    -- If the relation starts from beneath the name, all that start there do so from the
    -- same field.
    by_cases hname : Path.first relation.localField = name
    · have hself : ([relation.localField].filter fun field => Path.first field = name) =
          [relation.localField] := by
        simp [hname]
      rw [hself]
      apply eraseDups_eq_singleton
      · exact List.mem_filter.mpr ⟨List.mem_map_of_mem hmem, decide_eq_true hname⟩
      · intro field hfield
        rcases List.mem_filter.mp hfield with ⟨hfield, hfirst⟩
        rcases List.mem_map.mp hfield with ⟨other, hother, rfl⟩
        exact h other hother (of_decide_eq_true hfirst)
    · -- No relation adds a field there, as it would be the field of this one.
      have hnone : ((relations.map Relation.localField).filter fun field =>
          Path.first field = name) = [] := by
        rw [List.filter_eq_nil_iff]
        intro field hfield hfirst
        rcases List.mem_map.mp hfield with ⟨other, hother, rfl⟩
        have hsame := h other hother (of_decide_eq_true hfirst)
        exact hname (hsame ▸ of_decide_eq_true hfirst)
      rw [hnone, List.filter_cons_of_neg (by simpa using hname), List.filter_nil]
  unfold withLocalFields including
  split
  · rfl
  · rw [filter_eraseDups, filter_eraseDups, List.filter_append, List.filter_append]
    exact eraseDups_append_congr _ _ _ hlocal

/-- What is left under such a name is what is left for this relation alone, if
    it takes no other relation for fields to be chosen. -/
theorem get?_pick_withLocalFields (d : Document) (name : String)
    (h : chosen ≠ [] → ∀ other ∈ relations, Path.first other.localField = name →
      other.localField = relation.localField)
    (hidentifier : chosen ≠ [] → relation.localField = "_id" →
      ∃ field ∈ chosen, field ≠ "_id") :
    (d.pick (withLocalFields chosen relations)).get? name =
      (d.pick (withLocalFields chosen [relation])).get? name := by
  by_cases hchosen : chosen = []
  · rw [hchosen]
    rfl
  -- Fields are chosen both times, by the request or by the relation itself.
  have hfield : ∀ relations : List Relation, relation ∈ relations →
      ∃ field ∈ withLocalFields chosen relations, field ≠ "_id" := by
    intro relations hmem
    by_cases hlocal : relation.localField = "_id"
    · rcases hidentifier hchosen hlocal with ⟨field, hfield, hne⟩
      exact ⟨field, (mem_withLocalFields chosen relations hchosen field).mpr (Or.inl hfield), hne⟩
    · exact ⟨_, (mem_withLocalFields chosen relations hchosen _).mpr
        (Or.inr ⟨relation, hmem, rfl⟩), hlocal⟩
  apply Document.get?_pick_congr
  · exact iff_of_true (hfield relations hmem) (hfield [relation] List.mem_cons_self)
  · exact filter_withLocalFields chosen relations relation hmem name (h hchosen)

/-- Under the name that a relation starts from, it does not matter either that
    other relations make a choice of the identifier alone. -/
theorem get?_pick_localField (d : Document)
    (h : chosen ≠ [] → ∀ other ∈ relations,
      Path.first other.localField = Path.first relation.localField →
        other.localField = relation.localField) :
    (d.pick (withLocalFields chosen relations)).get? (Path.first relation.localField) =
      (d.pick (withLocalFields chosen [relation])).get? (Path.first relation.localField) := by
  by_cases hidentifier : chosen ≠ [] → relation.localField = "_id" →
      ∃ field ∈ chosen, field ≠ "_id"
  · exact get?_pick_withLocalFields chosen relations relation hmem d _ h hidentifier
  · push Not at hidentifier
    rcases hidentifier with ⟨hchosen, hlocal, hall⟩
    -- Only the identifier is chosen and the relation starts from it, so it is kept as it is.
    have hfirst : Path.first "_id" = "_id" := by decide
    have hkept : ∀ relations : List Relation,
        (∀ other ∈ relations, Path.first other.localField = "_id" → other.localField = "_id") →
          (d.pick (withLocalFields chosen relations)).get? "_id" = d.get? "_id" := by
      intro relations hrelations
      apply Document.get?_pick_identifier
      intro field hfield hname
      rcases (mem_withLocalFields chosen relations hchosen field).mp hfield with
        hfield | ⟨other, hother, rfl⟩
      · exact hall field hfield
      · exact hrelations other hother hname
    have hothers := h hchosen
    rw [hlocal, hfirst] at hothers ⊢
    rw [hkept relations hothers, hkept [relation]]
    intro other hother _
    rw [List.mem_singleton.mp hother, hlocal]

end Profile

end DocQuery
