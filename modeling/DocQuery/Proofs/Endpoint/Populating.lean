import DocQuery.Proofs.Endpoint.PageLength
import DocQuery.Proofs.Endpoint.Embedding
import DocQuery.Proofs.Endpoint.Rows
import DocQuery.Proofs.Value.Entries

/-!
# Relations Apart from Each Other

Relations are expanded one after the other on the same document. Each reads the
field that it starts from and writes at its own name, so they can stand in each
other's way: a relation may write over what another one reads, and may do so in
the very place where it has read itself. Then the answer depends on which
relations are asked for, and in which order.

A relation that is apart from the others is not affected. None that comes before
it writes under the name that it starts from, and none that comes after it
writes under its own. This is asked of the first names of paths, as an entry of
a document is written and decoded as a whole: a relation that goes beneath a
field makes a document of whatever is there, and the names beneath it decide
whether the entry still is one when it is decoded.

If fields are chosen, the others add the fields that they start from, and these
must not make a difference under the two names either. Whatever else is asked
for then, the documents of the answer have the same at the name of the relation
as if nothing else had been asked for.

## Main definitions

* `Profile.Apart`: A relation that the others of a request do not affect.
* `Profile.sources`: The stored documents that are on a page.

## Theorems

* `Relation.get?_expandAll_of_apart`: What other relations leave alone.
* `Profile.Apart.alone`: A relation that is apart is so on its own.
* `Profile.get?_of_apart`, `at?_of_apart`: What a relation leaves is what it leaves
  on its own.
* `Profile.handle_list_apart`: Responses to requests for different relations.
* `Profile.handle_list_overwritten`: A relation that writes over what another
  one reads.
-/

namespace DocQuery

theorem Path.ofString_of_notMem (s : String) (h : '.' ∉ s.toList) :
    Path.ofString s = [Path.first s] := by
  -- Nothing separates the name, so it is a single piece.
  have hpieces : Text.pieces (· == '.') s.toList = [s.toList] := by
    apply Text.pieces_of_not_sep
    intro c hc
    rw [beq_eq_false_iff_ne]
    rintro rfl
    exact h hc
  rw [Path.ofString, hpieces, Path.first_of_notMem s h, List.map_singleton, String.ofList_toList]

namespace Relation

theorem distinct_expand (r : Relation) (stored : List Document) (d e : Document)
    (hd : d.Distinct) (he : e ∈ r.expand stored d) : e.Distinct := by
  have hjoined : (r.join.apply stored d).Distinct := Document.distinct_setAt d _ _ hd
  -- Writing and removing keep names distinct, whatever is written.
  rcases r.mem_expand stored d e he with ⟨-, rfl⟩ | ⟨-, -, rfl⟩ | ⟨-, partner, -, rfl⟩
  · exact hjoined
  · exact Document.distinct_removeAt _ _ hjoined
  · exact Document.distinct_setAt _ _ _ hjoined

theorem distinct_expandAll (collection : String → List Document) (relations : List Relation)
    (d e : Document) (hd : d.Distinct) (he : e ∈ expandAll collection relations d) :
    e.Distinct :=
  holds_of_mem_expandAll collection Document.Distinct relations
    (fun r _ d hd e => r.distinct_expand _ d e hd) d hd e he

/-- The partners of a document depend on what is under the first name of the
    field that the relation starts from. -/
theorem partners_congr (r : Relation) (stored : List Document) (d e : Document)
    (h : d.get? (Path.first r.localField) = e.get? (Path.first r.localField)) :
    r.join.partners stored d = r.join.partners stored e := by
  have hat := Document.at?_ofString_congr d e r.localField h
  unfold Join.partners join
  simp only [hat]

/-- A relation leaves the same under its name in documents that have the same
    under the name that it starts from. If it goes beneath a field, they have to
    have the same there too. -/
theorem get?_expand_congr (r : Relation) (stored : List Document) (d e d' e' : Document)
    (hd : d' ∈ r.expand stored d) (he : e' ∈ r.expand stored e)
    (hlocal : d.get? (Path.first r.localField) = e.get? (Path.first r.localField))
    (hname : '.' ∈ r.name.toList → d.get? (Path.first r.name) = e.get? (Path.first r.name))
    (hsingle : r.single = true → (r.join.partners stored d).length ≤ 1) :
    d'.get? (Path.first r.name) = e'.get? (Path.first r.name) := by
  have hpartners := r.partners_congr stored d e hlocal
  rcases Path.ofString_eq_cons r.name with ⟨rest, hrest⟩
  -- The list of the partners is put there first. A name without a point is written over.
  have hjoined : (r.join.apply stored d).get? (Path.first r.name) =
      (r.join.apply stored e).get? (Path.first r.name) := by
    unfold Join.apply
    rw [hpartners, join, hrest]
    apply Document.get?_setAt_congr
    by_cases hdot : '.' ∈ r.name.toList
    · exact Or.inr (hname hdot)
    · rw [Path.ofString_of_notMem r.name hdot] at hrest
      exact Or.inl (List.cons.inj hrest).2.symm
  have htarget : r.join.target = Path.first r.name :: rest := hrest
  -- The partners are the same, one at most for a single relation, so the same has been done to
  -- both documents.
  unfold expand at hd he
  rw [hpartners] at hd hsingle
  by_cases hone : r.single = true
  · simp only [if_pos hone] at hd he
    rcases hlist : r.join.partners stored e with _ | ⟨partner, more⟩
    · rw [hlist] at hd he
      rw [List.mem_singleton.mp hd, List.mem_singleton.mp he, htarget]
      exact Document.get?_removeAt_congr _ _ _ rest hjoined
    · have hmore : more = [] := by
        have hle := hsingle hone
        rw [hlist, List.length_cons] at hle
        exact List.eq_nil_of_length_eq_zero (by omega)
      rw [hlist, hmore] at hd he
      rw [List.mem_singleton.mp hd, List.mem_singleton.mp he, htarget]
      exact Document.get?_setAt_congr _ _ _ rest _ (Or.inr hjoined)
  · simp only [if_neg hone] at hd he
    rw [List.mem_singleton.mp hd, List.mem_singleton.mp he]
    exact hjoined

/-- A relation among others leaves what it leaves on its own, if those before it
    do not write under the name that it starts from and those after it do not
    write under its own. -/
theorem get?_expandAll_of_apart (collection : String → List Document)
    (before after : List Relation) (r : Relation)
    (hreads : ∀ other ∈ before, Path.first other.name ≠ Path.first r.localField)
    (hbeneath : '.' ∈ r.name.toList →
      ∀ other ∈ before, Path.first other.name ≠ Path.first r.name)
    (hnames : ∀ other ∈ after, Path.first other.name ≠ Path.first r.name)
    (d alone e e' : Document) (he : e ∈ expandAll collection (before ++ r :: after) d)
    (he' : e' ∈ r.expand (collection r.collection) alone)
    (hlocal : d.get? (Path.first r.localField) = alone.get? (Path.first r.localField))
    (hname : '.' ∈ r.name.toList →
      d.get? (Path.first r.name) = alone.get? (Path.first r.name))
    (hsingle : r.single = true →
      (r.join.partners (collection r.collection) alone).length ≤ 1) :
    e.get? (Path.first r.name) = e'.get? (Path.first r.name) := by
  rcases (mem_expandAll_append collection before (r :: after) d e).mp he with ⟨own, hown, he⟩
  rw [expandAll, List.mem_flatMap] at he
  rcases he with ⟨f, hf, he⟩
  -- The relations before leave what this one looks at.
  have hownLocal : own.get? (Path.first r.localField) = alone.get? (Path.first r.localField) :=
    (get?_expandAll collection before d own hown _ hreads).trans hlocal
  have hownName : '.' ∈ r.name.toList →
      own.get? (Path.first r.name) = alone.get? (Path.first r.name) := by
    intro hdot
    exact (get?_expandAll collection before d own hown _ (hbeneath hdot)).trans (hname hdot)
  -- The relations after it leave what it has left.
  rw [get?_expandAll collection after f e he _ hnames]
  apply r.get?_expand_congr _ own alone f e' hf he' hownLocal hownName
  rw [r.partners_congr _ own alone hownLocal]
  exact hsingle

end Relation

/-- The same request for other relations. -/
abbrev ListRequest.populating (r : ListRequest) (names : List String) : ListRequest :=
  { r with populate := names }

namespace Profile

theorem name_of_relation? (p : Profile) (name : String) (r : Relation)
    (h : p.relation? name = some r) : r.name = name := by
  have htest := List.find?_some h
  exact beq_iff_eq.mp htest

theorem relationsNamed_singleton (p : Profile) (names : List String) (r : Relation)
    (h : r ∈ p.relationsNamed names) : p.relationsNamed [r.name] = [r] := by
  rcases List.mem_filterMap.mp h with ⟨name, -, hname⟩
  rw [relationsNamed, List.filterMap_cons, p.name_of_relation? name r hname, hname]
  rfl

/-- A relation that the other relations of a request do not affect. They are
    given as those that are expanded before it and those that are expanded
    after it.

    This is enough, but more than is needed. Paths are told apart by their first
    names only, so requests are left out in which two of them part further on and
    do no harm as long as documents lie on the way: relations that are expanded
    to `car.owner` and `car.garage`, one that is expanded to `car.owner` before
    another that starts from `car.plate`, or, when fields are chosen, two that
    start from `car.plate` and `car.maker`. Left out as well is a relation whose
    name is taken by a later one that adds the same documents. -/
structure Apart (p : Profile) (r : ListRequest) (before : List Relation) (relation : Relation)
    (after : List Relation) : Prop where
  requested : p.relationsNamed r.populate = before ++ relation :: after
  /-- Those before it do not write under the name that it starts from. -/
  reads : ∀ other ∈ before, Path.first other.name ≠ Path.first relation.localField
  /-- Those after it do not write under its name. -/
  names : ∀ other ∈ after, Path.first other.name ≠ Path.first relation.name
  /-- If fields are chosen, the others do not add fields under the name that it
      starts from. -/
  locals : p.visibleFields r.fields ≠ [] → ∀ other ∈ before ++ relation :: after,
    Path.first other.localField = Path.first relation.localField →
      other.localField = relation.localField
  /-- If it goes beneath a field, those before it do not write there. -/
  beneath : '.' ∈ relation.name.toList →
    ∀ other ∈ before, Path.first other.name ≠ Path.first relation.name
  /-- If fields are chosen too, the others do not add fields there, and they do
      not turn the identifier into a choice of fields. -/
  chosen : '.' ∈ relation.name.toList → p.visibleFields r.fields ≠ [] →
    (∀ other ∈ before ++ relation :: after,
      Path.first other.localField = Path.first relation.name →
        other.localField = relation.localField) ∧
    (relation.localField = "_id" → ∃ field ∈ p.visibleFields r.fields, field ≠ "_id")

/-- A document with the fields that are picked for a relation alone. -/
abbrev aloneRow (p : Profile) (r : ListRequest) (relation : Relation) (d : Document) : Document :=
  d.pick (withLocalFields (p.visibleFields r.fields) [relation])

section Rows

variable (p : Profile) (r : ListRequest) (before : List Relation) (relation : Relation)
  (after : List Relation) (hapart : p.Apart r before relation after)

include hapart

theorem Apart.mem : relation ∈ p.relationsNamed r.populate := by
  rw [hapart.requested]
  exact List.mem_append_right before List.mem_cons_self

/-- A relation that is apart from the others is so on its own. -/
theorem Apart.alone : p.Apart (r.populating [relation.name]) [] relation [] where
  requested := p.relationsNamed_singleton r.populate relation hapart.mem
  -- There are no other relations to write or to add fields.
  reads := fun _ hother => absurd hother List.not_mem_nil
  names := fun _ hother => absurd hother List.not_mem_nil
  locals := fun _ _ hother _ => congrArg Relation.localField (List.mem_singleton.mp hother)
  beneath := fun _ _ hother => absurd hother List.not_mem_nil
  chosen := fun hdot hchosen =>
    ⟨fun _ hother _ => congrArg Relation.localField (List.mem_singleton.mp hother),
      (hapart.chosen hdot hchosen).2⟩

theorem get?_localField_of_apart (d : Document) :
    (d.pick (p.listing r).request.fields).get? (Path.first relation.localField) =
      (p.aloneRow r relation d).get? (Path.first relation.localField) := by
  apply get?_pick_localField _ _ relation hapart.mem d
  rw [hapart.requested]
  exact hapart.locals

/-- A relation that is apart finds the partners that it finds on its own. -/
theorem partners_of_apart (stored : List Document) (d : Document) :
    relation.join.partners stored (d.pick (p.listing r).request.fields) =
      relation.join.partners stored (p.aloneRow r relation d) :=
  relation.partners_congr stored _ _ (p.get?_localField_of_apart r before relation after hapart d)

/-- What a relation that is apart leaves under its name is what it leaves there
    on its own. -/
theorem get?_of_apart (collection : String → List Document) (d e e' : Document)
    (he : e ∈ Relation.expandAll collection (p.relationsNamed r.populate)
      (d.pick (p.listing r).request.fields))
    (he' : e' ∈ relation.expand (collection relation.collection) (p.aloneRow r relation d))
    (hsingle : relation.single = true →
      (relation.join.partners (collection relation.collection)
        (p.aloneRow r relation d)).length ≤ 1) :
    e.get? (Path.first relation.name) = e'.get? (Path.first relation.name) := by
  have hname : '.' ∈ relation.name.toList →
      (d.pick (p.listing r).request.fields).get? (Path.first relation.name) =
        (p.aloneRow r relation d).get? (Path.first relation.name) := by
    intro hdot
    apply get?_pick_withLocalFields _ _ relation hapart.mem d
    · rw [hapart.requested]
      exact fun hchosen => (hapart.chosen hdot hchosen).1
    · exact fun hchosen => (hapart.chosen hdot hchosen).2
  rw [hapart.requested] at he
  exact Relation.get?_expandAll_of_apart collection before after relation hapart.reads
    hapart.beneath hapart.names _ _ e e' he he'
    (p.get?_localField_of_apart r before relation after hapart d) hname hsingle

end Rows

/-- What a document has at the name of a relation, if the relation is apart from
    the others of both requests, is the same whichever it is returned for. -/
theorem at?_of_apart (p : Profile) (r : ListRequest) (names : List String)
    (before after before' after' : List Relation) (relation : Relation)
    (hapart : p.Apart r before relation after)
    (hapart' : p.Apart (r.populating names) before' relation after')
    (collection : String → List Document) (d : Document) (hd : d.Distinct)
    (hsingle : relation.single = true →
      (relation.join.partners (collection relation.collection)
        (p.aloneRow r relation d)).length ≤ 1)
    (e e' x y : Document)
    (he : e ∈ Relation.expandAll collection (p.relationsNamed r.populate)
      (d.pick (p.listing r).request.fields))
    (he' : e' ∈ Relation.expandAll collection (p.relationsNamed names)
      (d.pick (p.listing (r.populating names)).request.fields))
    (hx : Document.decode? e = some x) (hy : Document.decode? e' = some y) :
    (p.redact x).at? (Path.ofString relation.name) =
      (p.redact y).at? (Path.ofString relation.name) := by
  -- Both times the relation leaves what it leaves on its own.
  -- The relation leaves something on its own too, as no document is lost.
  rcases List.exists_mem_of_ne_nil _ (relation.expand_ne_nil (collection relation.collection)
    (p.aloneRow r relation d)) with ⟨alone, halone⟩
  have hget : e.get? (Path.first relation.name) = e'.get? (Path.first relation.name) := by
    rw [p.get?_of_apart r before relation after hapart collection d e alone he halone hsingle,
      p.get?_of_apart _ before' relation after' hapart' collection d e' alone he' halone hsingle]
  -- What is under its first name is decoded on its own.
  have hdecoded : x.get? (Path.first relation.name) = y.get? (Path.first relation.name) := by
    rw [Document.get?_decode? e x (Relation.distinct_expandAll _ _ _ e
        (Document.distinct_pick _ d hd) he) hx,
      Document.get?_decode? e' y (Relation.distinct_expandAll _ _ _ e'
        (Document.distinct_pick _ d hd) he') hy, hget]
  rw [at?_redact, at?_redact, Document.at?_ofString_congr x y relation.name hdecoded]

/-- The stored documents that are on the page that a request asks for, out of
    those that match, in order. -/
def sources (p : Profile) (r : ListRequest) (sorted : List Document) : List Document :=
  Listing.cut (p.listing r).request sorted

theorem shown_eq_map_sources {p : Profile} {r : ListRequest} {docs sorted : List Document}
    (h : (p.listing r).ordered docs = some sorted) :
    (p.listing r).shown docs =
      some ((p.sources r sorted).map (Document.pick (p.listing r).request.fields)) := by
  rw [Listing.shown_of_ordered_eq_some h, sources, Listing.cut_map]

theorem mem_of_mem_sources {p : Profile} {r : ListRequest} {docs sorted : List Document}
    (h : (p.listing r).ordered docs = some sorted) {d : Document} (hd : d ∈ p.sources r sorted) :
    d ∈ docs := by
  have hordered := (Listing.cut_sublist (p.listing r).request _).mem hd
  exact List.mem_of_mem_filter ((Listing.perm_of_ordered_eq_some h).mem_iff.mp hordered)

/-- The documents of an answer come in groups, one for each document on the
    page. -/
theorem exists_groups (p : Profile) (s : Store) (r : ListRequest) (sorted data : List Document)
    (h : (((p.sources r sorted).map (Document.pick (p.listing r).request.fields)).flatMap
      (Relation.expandAll s.documents (p.relationsNamed r.populate))).mapM Document.decode? =
        some data) :
    ∃ groups, groups.flatten = data ∧
      (p.sources r sorted).mapM (fun d =>
        (Relation.expandAll s.documents (p.relationsNamed r.populate)
          (d.pick (p.listing r).request.fields)).mapM Document.decode?) = some groups := by
  -- To decode all is to decode the documents of each group.
  rw [List.flatMap_map, mapM_flatMap] at h
  rcases Option.map_eq_some_iff.mp h with ⟨groups, hgroups, hflatten⟩
  exact ⟨groups, hflatten, hgroups⟩

/-- A group is not empty, and has one document if no single relation finds more
    than one partner. -/
theorem length_of_mem_groups (p : Profile) (s : Store) (r : ListRequest) (sorted : List Document)
    (groups : List (List Document))
    (h : (p.sources r sorted).mapM (fun d =>
      (Relation.expandAll s.documents (p.relationsNamed r.populate)
        (d.pick (p.listing r).request.fields)).mapM Document.decode?) = some groups)
    (group : List Document) (hgroup : group ∈ groups) :
    group ≠ [] ∧
      ((∀ d ∈ (p.sources r sorted).map (Document.pick (p.listing r).request.fields),
        Relation.SingleValued s.documents (p.relationsNamed r.populate) d) → group.length = 1) := by
  rcases exists_of_mem_mapM_some _ _ groups h group hgroup with ⟨d, hd, hdecode⟩
  have hlength := ((mapM_eq_some_iff _ _ _).mp hdecode).length_eq
  have hne := Relation.expandAll_ne_nil s.documents (p.relationsNamed r.populate)
    (d.pick (p.listing r).request.fields)
  constructor
  · rintro rfl
    exact hne (List.eq_nil_of_length_eq_zero hlength)
  · intro hsingle
    rw [← hlength, Relation.length_expandAll_eq_one_iff]
    exact hsingle _ (List.mem_map_of_mem hd)

/-- Requests for different relations, or for the same in another order. If a
    relation is apart from the others both times, the answers have the same at
    its name. The documents of the answers stand in groups, one for each document
    of the page, and these groups have one document each if no single relation
    finds more than one partner. -/
theorem handle_list_apart (p : Profile) (s : Store) (name : String) (query other : List Char)
    (r : ListRequest) (names : List String)
    (hr : ListRequest.ofParams (Params.parse query) = r)
    (hother : ListRequest.ofParams (Params.parse other) = r.populating names)
    (before after before' after' : List Relation) (relation : Relation)
    (hapart : p.Apart r before relation after)
    (hapart' : p.Apart (r.populating names) before' relation after')
    (hdistinct : ∀ d ∈ s.documents name, d.Distinct)
    (hsingle : relation.single = true → ∀ d ∈ ((p.listing r).shown (s.documents name)).getD [],
      (relation.join.partners (s.documents relation.collection) d).length ≤ 1)
    (hstatus : (p.handle (Call.list query) (s.answer name)).status = 200)
    (hstatus' : (p.handle (Call.list other) (s.answer name)).status = 200) :
    ∃ (groups groups' : List (List Document)) (numbers : PageNumbers)
        (shown shown' : List Document),
      p.handle (Call.list query) (s.answer name) =
        .ok p.retrieved (.array (groups.flatten.map p.present)) (some numbers) ∧
      p.handle (Call.list other) (s.answer name) =
        .ok p.retrieved (.array (groups'.flatten.map p.present)) (some numbers) ∧
      List.Forall₂ (fun group group' => ∀ d ∈ group, ∀ e ∈ group',
        (p.redact d).at? (Path.ofString relation.name) =
          (p.redact e).at? (Path.ofString relation.name)) groups groups' ∧
      (p.listing r).shown (s.documents name) = some shown ∧
      (p.listing (r.populating names)).shown (s.documents name) = some shown' ∧
      groups.length = shown.length ∧
      (∀ group ∈ groups, group ≠ [] ∧
        ((∀ d ∈ shown, Relation.SingleValued s.documents (p.relationsNamed r.populate) d) →
          group.length = 1)) ∧
      (∀ group ∈ groups', group ≠ [] ∧
        ((∀ d ∈ shown', Relation.SingleValued s.documents (p.relationsNamed names) d) →
          group.length = 1)) := by
  rcases p.handle_list_of_status s name query r hr hstatus with
    ⟨shown, data, hshown, hdecode, hresponse⟩
  rcases p.handle_list_of_status s name other _ hother hstatus' with
    ⟨shown', data', hshown', hdecode', hresponse'⟩
  rcases Listing.shown_eq_some_iff.mp hshown with ⟨sorted, hsorted, -⟩
  -- The requests differ in the relations, so the same is found, and in the same order.
  have hsorted' : (p.listing (r.populating names)).ordered (s.documents name) = some sorted :=
    hsorted
  have hsources := (shown_eq_map_sources hsorted).symm.trans hshown
  have hsources' := (shown_eq_map_sources hsorted').symm.trans hshown'
  rw [Option.some.injEq] at hsources hsources'
  subst hsources hsources'
  rcases p.exists_groups s r sorted data hdecode with ⟨groups, rfl, hgroups⟩
  rcases p.exists_groups s _ sorted data' hdecode' with ⟨groups', rfl, hgroups'⟩
  have hlength : groups.length =
      ((p.sources r sorted).map (Document.pick (p.listing r).request.fields)).length := by
    rw [List.length_map]
    exact ((mapM_eq_some_iff _ _ _).mp hgroups).length_eq.symm
  refine ⟨groups, groups', _, _, _, hresponse, hresponse', ?_, hshown, hshown', hlength,
    p.length_of_mem_groups s r sorted groups hgroups,
    p.length_of_mem_groups s _ sorted groups' hgroups'⟩
  apply forall₂_of_mapM_eq_some _ _ _ _ groups groups' hgroups hgroups'
  -- A document of the page, and an entry that it stands for in each of the answers.
  intro d hd group group' hgroup hgroup' x hx y hy
  rcases exists_of_mem_mapM_some _ _ group hgroup x hx with ⟨e, he, hx⟩
  rcases exists_of_mem_mapM_some _ _ group' hgroup' y hy with ⟨e', he', hy⟩
  have hd' := hdistinct d (mem_of_mem_sources hsorted hd)
  have hone : relation.single = true →
      (relation.join.partners (s.documents relation.collection)
        (p.aloneRow r relation d)).length ≤ 1 := by
    intro h
    rw [← p.partners_of_apart r before relation after hapart]
    apply hsingle h
    rw [hshown, Option.getD_some]
    exact List.mem_map_of_mem hd
  exact p.at?_of_apart r names before after before' after' relation hapart hapart' s.documents d
    hd' hone e e' x y he he' hx hy

/-- A store with a car, its owner, a fine of the owner and the garage of the
    car. -/
def carStore : Store where
  collections :=
    [("cars", [[("_id", .int32 1), ("owner", .int32 7), ("garage", .int32 9)]]),
     ("owners", [[("_id", .int32 7), ("name", .string "Eve")]]),
     ("fines", [[("_id", .int32 3), ("driver", .int32 7)]]),
     ("garages", [[("_id", .int32 9), ("city", .string "Rome")]])]
  supply := .counting ⟨0⟩

/-- Cars have owners, who take the place of their numbers. -/
def ownerRelation : Relation where
  name := "owner"
  collection := "owners"
  localField := "owner"
  single := true

/-- Fines are looked up from the number of the owner. -/
def finesRelation : Relation where
  name := "fines"
  collection := "fines"
  localField := "owner"
  foreignField := "driver"

/-- Cars stand in garages. -/
def placeRelation : Relation where
  name := "place"
  collection := "garages"
  localField := "garage"
  single := true

/-- A profile of cars. -/
def carProfile : Profile where
  name := "cars"
  relations := [ownerRelation, finesRelation, placeRelation]

/-- The list of cars with some relations. -/
theorem handle_cars {query : List Char} {names : String}
    (hquery : Params.parse query = [("populate", [names])]) :
    carProfile.handle (Call.list query) (carStore.answer "cars") =
      ((carProfile.listingFor [("populate", [names])]).shown (carStore.documents "cars")).elim
        .missing fun shown => .ok "cars retrieved successfully"
          (.array (shown.flatMap (carProfile.entries carStore.documents (carProfile.relationsNamed
            (ListRequest.ofParams [("populate", [names])]).populate))))
          (some (.make none none (min ((carProfile.listingFor [("populate", [names])]).found
            (carStore.documents "cars")).length Value.maxInt64))) := by
  have hmatch : (carProfile.listingFor [("populate", [names])]).Matches carStore "cars" :=
    matches_of_get?_eq_none carStore "cars" carProfile rfl
  rw [handle_list carStore "cars" carProfile query _ (congrArg ListRequest.ofParams hquery)
    (Store.forall_documents carStore (by decide)) (by decide) hmatch nofun]
  rfl

/-- The owner of a car is the same whether its fines and its place are asked for
    or not. -/
theorem handle_list_apart_sample :
    ∃ (groups groups' : List (List Document)) (numbers : PageNumbers),
      carProfile.handle (Call.list "populate=fines,owner,place".toList)
          (carStore.answer "cars") =
        .ok "cars retrieved successfully" (.array (groups.flatten.map carProfile.present))
          (some numbers) ∧
      carProfile.handle (Call.list "populate=owner".toList) (carStore.answer "cars") =
        .ok "cars retrieved successfully" (.array (groups'.flatten.map carProfile.present))
          (some numbers) ∧
      List.Forall₂ (fun group group' => ∀ d ∈ group, ∀ e ∈ group',
        (carProfile.redact d).at? ["owner"] = (carProfile.redact e).at? ["owner"])
          groups groups' := by
  have hall : Params.parse "populate=fines,owner,place".toList =
      [("populate", ["fines,owner,place"])] :=
    Params.parse_literal "populate".toList "fines,owner,place".toList (by decide) (by decide)
  have halone : Params.parse "populate=owner".toList = [("populate", ["owner"])] :=
    Params.parse_literal "populate".toList "owner".toList (by decide) (by decide)
  -- All three names have a single part and no fields are chosen, so few conditions are
  -- left.
  have hapart : carProfile.Apart (ListRequest.ofParams [("populate", ["fines,owner,place"])])
      [finesRelation] ownerRelation [placeRelation] := by
    exact ⟨by decide, by decide, by decide, fun hfields => absurd rfl hfields,
      fun hdot => absurd hdot (by decide), fun hdot => absurd hdot (by decide)⟩
  have hstatus : (carProfile.handle (Call.list "populate=fines,owner,place".toList)
      (carStore.answer "cars")).status = 200 := by
    rw [handle_cars hall]
    rfl
  have hstatus' : (carProfile.handle (Call.list "populate=owner".toList)
      (carStore.answer "cars")).status = 200 := by
    rw [handle_cars halone]
    rfl
  rcases handle_list_apart carProfile carStore "cars" "populate=fines,owner,place".toList
    "populate=owner".toList _ ["owner"] (congrArg ListRequest.ofParams hall)
    (congrArg ListRequest.ofParams halone) _ _ _ _ ownerRelation hapart
    (hapart.alone carProfile _ _ _ _) (by decide) (fun _ => by decide) hstatus hstatus'
    with ⟨groups, groups', numbers, -, -, hresponse, hresponse', hsame, -⟩
  exact ⟨groups, groups', numbers, hresponse, hresponse', hsame⟩

/-- A relation that writes over what another one reads. The fines of the owner
    are found before the owner takes the place of its number, and not after. -/
theorem handle_list_overwritten :
    (carProfile.relations.map Relation.name).Nodup ∧
      (∀ relation ∈ carProfile.relations, relation.single = true →
        ∀ d ∈ carStore.documents "cars",
          (relation.join.partners (carStore.documents relation.collection) d).length ≤ 1) ∧
      carProfile.handle (Call.list "populate=fines".toList) (carStore.answer "cars") =
        .ok "cars retrieved successfully"
          (.array ([[("_id", .int32 1), ("owner", .int32 7), ("garage", .int32 9),
            ("fines", .array [.document [("_id", .int32 3), ("driver", .int32 7)]])]].map fun d =>
              (Value.document d).plain))
          (some ⟨1, 1, 1, 1⟩) ∧
      carProfile.handle (Call.list "populate=fines,owner".toList) (carStore.answer "cars") =
        .ok "cars retrieved successfully"
          (.array ([[("_id", .int32 1),
            ("owner", .document [("_id", .int32 7), ("name", .string "Eve")]),
            ("garage", .int32 9),
            ("fines", .array [.document [("_id", .int32 3), ("driver", .int32 7)]])]].map fun d =>
              (Value.document d).plain))
          (some ⟨1, 1, 1, 1⟩) ∧
      carProfile.handle (Call.list "populate=owner,fines".toList) (carStore.answer "cars") =
        .ok "cars retrieved successfully"
          (.array ([[("_id", .int32 1),
            ("owner", .document [("_id", .int32 7), ("name", .string "Eve")]),
            ("garage", .int32 9), ("fines", .array [])]].map fun d => (Value.document d).plain))
          (some ⟨1, 1, 1, 1⟩) := by
  have halone : Params.parse "populate=fines".toList = [("populate", ["fines"])] :=
    Params.parse_literal "populate".toList "fines".toList (by decide) (by decide)
  have hbefore : Params.parse "populate=fines,owner".toList =
      [("populate", ["fines,owner"])] :=
    Params.parse_literal "populate".toList "fines,owner".toList (by decide) (by decide)
  have hafter : Params.parse "populate=owner,fines".toList =
      [("populate", ["owner,fines"])] :=
    Params.parse_literal "populate".toList "owner,fines".toList (by decide) (by decide)
  refine ⟨by decide, by decide, ?_, ?_, ?_⟩
  · rw [handle_cars halone]
    rfl
  · rw [handle_cars hbefore]
    rfl
  · rw [handle_cars hafter]
    rfl

end Profile

end DocQuery
