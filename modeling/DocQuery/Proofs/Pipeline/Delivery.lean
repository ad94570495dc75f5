import DocQuery.Proofs.Pipeline.Inclusion
import DocQuery.Proofs.Text.FormEncoding
import DocQuery.Proofs.Value.Apart

/-!
# Delivered Fields

A written projection that only includes fields delivers them: at the path of
each field, the document that comes out has what the document that went in has
there. What is missing stays missing. No field may lead through the place of
another one, and then the order of the fields does not matter.

The values are read through arrays but written without them, and they are
written one after the other into a document that starts with the identifier
alone. The invariant is that a field that has been written lies on a straight
path, so that no field written later disturbs it. A field that is missing needs
no other one: nothing is found only at the end of a straight path, and as there
is less in the identifier than in the whole document, it is missing from the
start.

The identifier comes out first and as it was, unless the projection drops it or
reaches beneath it.

All of this is stated of the written projection, whose values are true, one or
any other number that is not zero, because that is what a stage receives. From
there it goes down in three steps. The written form selects names, the selection
is a fold over the names, and the fold has an invariant that is checked for a
single name.

## Main definitions

* `Value.isExclusion`: Does a value in a written projection drop its field?
* `Document.Delivers`: Does a document have what another one has at a path, in
  a way that writing elsewhere cannot change?
* `Document.select`: A document with some fields of another one, with or without
  its identifier.

## Theorems

* `Document.delivers_addField_self`, `delivers_addField_of_diverges`: What a
  field that is added delivers, and what it keeps.
* `Document.delivers_select`: Fields that are apart are all delivered.
* `Document.head?_select`: The identifier comes first.
* `Stage.run_inclusions_delivers`: What a projection that only includes fields
  delivers.
-/

namespace DocQuery

open Number

/-- Does a value in a written projection drop its field? So do false and the
    numbers that are zero. -/
def Value.isExclusion : Value → Bool
  | .boolean b => !b
  | .int32 n => n.toInt == 0
  | .int64 n => n.toInt == 0
  | .double x => x.magnitude == 0
  | _ => false

/-- A value that drops its field is read as such. -/
theorem FieldChoice.ofValue_of_isExclusion (v : Value) (h : v.isExclusion = true) :
    FieldChoice.ofValue v = .excluded := by
  have hnumber : ∀ x : Binary64, x.magnitude = 0 →
      (if x.compare? .zero = some .eq then FieldChoice.excluded else .included) = .excluded :=
    fun x hx => if_pos ((Binary64.compare?_zero_eq_some_eq x).mpr hx)
  -- The comparison is one of doubles, and rounding makes zero of no other integer than
  -- zero.
  have hinteger : ∀ n : Int, (n == 0) = true → (Binary64.ofInt n).magnitude = 0 :=
    fun n hn => (Binary64.magnitude_ofInt_eq_zero_iff n).mpr (beq_iff_eq.mp hn)
  cases v with
  | boolean b =>
      cases b with
      | false => rfl
      | true => exact Bool.noConfusion h
  | int32 n => exact hnumber _ (hinteger _ h)
  | int64 n => exact hnumber _ (hinteger _ h)
  | double x => exact hnumber x (beq_iff_eq.mp h)
  | _ => exact Bool.noConfusion h

namespace Path

theorem Diverges.symm {p q : Path} (h : p.Diverges q) : q.Diverges p :=
  ⟨h.2, h.1⟩

/-- A written path that starts with a name is the name, or goes on with a
    point. -/
theorem eq_or_prefix_of_head? (s name : String) (h : (ofString s).head? = some name) :
    s = name ∨ name.toList ++ ['.'] <+: s.toList := by
  rw [ofString, List.head?_map] at h
  -- The first piece ends at the first point, or is all of the text if there is none.
  rcases hcut : Text.cut? (· == '.') s.toList with _ | ⟨a, b⟩
  · rw [Text.pieces_of_not_sep _ _ ((Text.cut?_eq_none_iff _ _).mp hcut), List.head?_cons,
      Option.map_some, String.ofList_toList] at h
    exact Or.inl (Option.some.inj h)
  · rcases Text.append_of_cut? _ _ _ _ hcut with ⟨c, hc, hs, ha⟩
    rw [hs, Text.pieces_append _ a b c hc, Text.pieces_of_not_sep _ a ha, List.singleton_append,
      List.head?_cons, Option.map_some] at h
    obtain rfl : String.ofList a = name := Option.some.inj h
    rw [hs, String.toList_ofList, ← beq_iff_eq.mp hc]
    exact Or.inr ⟨b, by rw [List.append_assoc]; rfl⟩

end Path

namespace Document

/-- Does a document have what another one has at a path, in a way that writing
    elsewhere cannot change? -/
def Delivers (d out : Document) (path : Path) : Prop :=
  Straight out path ∧ out.at? path = d.at? path

/-- What is missing in both documents is delivered. -/
theorem delivers_of_at?_eq_none (d out : Document) (path : Path) (hd : d.at? path = none)
    (hout : out.at? path = none) : Delivers d out path :=
  ⟨straight_of_at?_eq_none out path hout, hout.trans hd.symm⟩

/-- A field that is added is delivered, if it was already when there is none. -/
theorem delivers_addField_self (d out : Document) (field : String)
    (h : d.at? (Path.ofString field) = none → Delivers d out (Path.ofString field)) :
    Delivers d (addField d out field) (Path.ofString field) := by
  unfold addField
  rcases hat : d.at? (Path.ofString field) with _ | v
  · exact h hat
  · refine ⟨straight_setAt_self out _ v, ?_⟩
    rw [hat]
    exact at?_setAt_self out _ v (Path.ofString_ne_nil field)

/-- What is delivered stays so when a field elsewhere is added. -/
theorem delivers_addField_of_diverges (d out : Document) (field : String) (path : Path)
    (h : (Path.ofString field).Diverges path) (hout : Delivers d out path) :
    Delivers d (addField d out field) path := by
  unfold addField
  rcases d.at? (Path.ofString field) with _ | v
  · exact hout
  · refine ⟨straight_setAt_of_diverges out _ path v h hout.1, ?_⟩
    rw [← hout.2]
    exact at?_setAt_of_diverges out _ path v h (Or.inr hout.1)

/-- Fields that are apart are all delivered in the end, if those that are
    missing were delivered from the start. -/
theorem delivers_foldl_addField (d out : Document) (fields : List String)
    (hapart : fields.Pairwise fun a b => (Path.ofString a).Diverges (Path.ofString b))
    (hmissing : ∀ field ∈ fields, d.at? (Path.ofString field) = none →
      Delivers d out (Path.ofString field)) :
    ∀ field ∈ fields, Delivers d (fields.foldl (addField d) out) (Path.ofString field) := by
  induction fields generalizing out with
  | nil => exact fun _ hfield => absurd hfield List.not_mem_nil
  | cons first fields ih =>
      rw [List.pairwise_cons] at hapart
      rw [List.forall_mem_cons] at hmissing
      intro field hfield
      rw [List.foldl_cons]
      rcases List.mem_cons.mp hfield with rfl | hfield
      · -- It is delivered now and kept by all that come after it.
        refine holds_foldl_addField (fun e => Delivers d e (Path.ofString field)) d fields ?_ _
          (delivers_addField_self d out field hmissing.1)
        exact fun other hother e he =>
          delivers_addField_of_diverges d e other _ (hapart.1 other hother).symm he
      · -- What is missing from the rest is not brought in by the first field.
        refine ih (addField d out first) hapart.2 (fun other hother hnone => ?_) field hfield
        exact delivers_addField_of_diverges d out first _ (hapart.1 other hother)
          (hmissing.2 other hother hnone)

/-- A document with some fields of another one, with or without its
    identifier. -/
def select (identifier : Bool) (fields : List String) (d : Document) : Document :=
  fields.foldl (addField d) (if identifier then Projection.identifierOf d else [])

/-- What is missing in a document is missing in its identifier alone. -/
theorem at?_identifierOf_eq_none (d : Document) (path : Path) (hpath : path ≠ [])
    (h : d.at? path = none) : (Projection.identifierOf d).at? path = none := by
  rcases List.exists_cons_of_ne_nil hpath with ⟨name, rest, rfl⟩
  rw [at?_cons] at h
  unfold Projection.identifierOf
  rcases hget : d.get? "_id" with _ | v
  · rfl
  · by_cases hname : name = "_id"
    · -- At or beneath the identifier, the same value is read in both documents.
      subst hname
      rw [hget] at h
      exact h
    · rw [at?_cons, get?, if_neg (Ne.symm hname)]
      rfl

/-- Fields that are apart are all delivered. -/
theorem delivers_select (identifier : Bool) (fields : List String) (d : Document)
    (hapart : fields.Pairwise fun a b => (Path.ofString a).Diverges (Path.ofString b)) :
    ∀ field ∈ fields, Delivers d (d.select identifier fields) (Path.ofString field) := by
  -- Only what is missing in the whole document asks for something before the first step.
  refine delivers_foldl_addField d _ fields hapart fun field _ hnone => ?_
  have hpath := Path.ofString_ne_nil field
  apply delivers_of_at?_eq_none d _ _ hnone
  cases identifier with
  | false =>
      rcases List.exists_cons_of_ne_nil hpath with ⟨name, rest, hcons⟩
      rw [hcons]
      rfl
  | true => exact at?_identifierOf_eq_none d _ hpath hnone

/-- Writing beneath other names leaves the first entry in its place. -/
theorem head?_setAt (d : Document) (path : Path) (v w : Value) (key : String)
    (hpath : path.head? ≠ some key) (h : d.head? = some (key, w)) :
    (setAt d path v).head? = some (key, w) := by
  have hinsert : ∀ name u, name ≠ key → (insert d name u).head? = some (key, w) := by
    intro name u hname
    rcases List.head?_eq_some_iff.mp h with ⟨rest, rfl⟩
    rw [insert, if_neg (Ne.symm hname), List.head?_cons]
  rcases path with _ | ⟨name, _ | ⟨next, rest⟩⟩
  · exact h
  · exact hinsert name v fun hname => hpath (congrArg some hname)
  · exact hinsert name _ fun hname => hpath (congrArg some hname)

/-- The identifier comes first, if no field is it or is beneath it. -/
theorem head?_select (fields : List String) (d : Document) (v : Value)
    (hfields : ∀ field ∈ fields, (Path.ofString field).head? ≠ some "_id")
    (h : d.get? "_id" = some v) : (d.select true fields).head? = some ("_id", v) := by
  refine holds_foldl_addField (fun out => out.head? = some ("_id", v)) d fields ?_ _ ?_
  · intro field hfield out hout
    unfold addField
    rcases d.at? (Path.ofString field) with _ | w
    · exact hout
    · exact head?_setAt out _ w v "_id" (hfields field hfield) hout
  · rw [if_pos rfl, Projection.identifierOf, h]
    rfl

end Document

namespace Projection

/-- A projection that only includes fields selects them, if there is one that is
    not the identifier. -/
theorem apply_of_onlyIncludes (spec : Document) (h : OnlyIncludes (choices spec))
    (hfield : ∃ entry ∈ spec, entry.1 ≠ "_id") :
    ∃ p, ofDocument spec = .ok p ∧ ∀ d, p.apply d =
      .ok (d.select (keepsIdentifier (choices spec))
        (spec.keys.filter fun field => field ≠ "_id")) := by
  rw [ofDocument_of_onlyIncludes spec h]
  rcases hkept : spec.keys.filter fun field => field ≠ "_id" with _ | ⟨field, fields⟩
  · rcases hfield with ⟨entry, hentry, hne⟩
    rw [List.filter_eq_nil_iff] at hkept
    exact absurd (decide_eq_true hne) (hkept _ (List.mem_map_of_mem hentry))
  · exact ⟨_, rfl, fun d => apply_keep _ (field :: fields) d⟩

/-- The identifier is kept by a projection without a value that drops it. -/
theorem keepsIdentifier_of_forall (spec : Document)
    (h : ∀ entry ∈ spec, entry.2.isInclusion = true ∨
      entry.1 = "_id" ∧ entry.2.isExclusion = true)
    (hkeep : ∀ entry ∈ spec, entry.1 = "_id" → entry.2.isExclusion = false) :
    keepsIdentifier (choices spec) = true := by
  unfold keepsIdentifier
  rw [List.all_eq_true]
  intro c hc
  rcases List.mem_map.mp hc with ⟨entry, hentry, rfl⟩
  -- Only the entry of the identifier may drop its field, and it does not.
  rcases h entry hentry with hinclusion | ⟨hid, hexclusion⟩
  · simp [FieldChoice.ofValue_of_isInclusion _ hinclusion]
  · rw [hkeep entry hentry hid] at hexclusion
    exact Bool.noConfusion hexclusion

end Projection

namespace Stage

/-- A stage that only includes fields, of which one is not the identifier and
    none leads through the place of another one, never fails. Each field is in
    the document that comes out as it is in the one that went in, and missing if
    it is missing there. The identifier comes first, unless it is dropped or a
    field is beneath it. -/
theorem run_inclusions_delivers (collection : String → List Document) (spec : Document)
    (docs : List Document)
    (hspec : ∀ entry ∈ spec, entry.2.isInclusion = true ∨
      entry.1 = "_id" ∧ entry.2.isExclusion = true)
    (hfield : ∃ entry ∈ spec, entry.1 ≠ "_id")
    (hapart : spec.Pairwise fun a b => (Path.ofString a.1).Diverges (Path.ofString b.1)) :
    ∃ outs, Stage.run collection (Stage.ofDocument (Listing.stage "$project" spec)) docs =
        .ok outs ∧
      List.Forall₂ (fun d out =>
        (∀ entry ∈ spec, entry.1 ≠ "_id" →
          out.at? (Path.ofString entry.1) = d.at? (Path.ofString entry.1)) ∧
        ((∀ entry ∈ spec, entry.1 = "_id" → entry.2.isExclusion = false) →
          (∀ entry ∈ spec, ¬ "_id.".toList <+: entry.1.toList) →
          ∀ v, d.get? "_id" = some v → out.head? = some ("_id", v))) docs outs := by
  have honly : Projection.OnlyIncludes (Projection.choices spec) := by
    intro c hc
    rcases List.mem_map.mp hc with ⟨entry, hentry, rfl⟩
    exact (hspec entry hentry).imp (FieldChoice.ofValue_of_isInclusion _)
      (And.imp_right (FieldChoice.ofValue_of_isExclusion _))
  rcases Projection.apply_of_onlyIncludes spec honly hfield with ⟨p, hp, happly⟩
  refine ⟨_, run_project collection spec p _ hp happly docs, ?_⟩
  rw [List.forall₂_map_right_iff, List.forall₂_same]
  -- What is left is to say of one document what the selected fields deliver.
  refine fun d _ => ⟨fun entry hentry hne => ?_, fun hkeep hbeneath v hv => ?_⟩
  · have hkeys : spec.keys.Pairwise fun a b => (Path.ofString a).Diverges (Path.ofString b) :=
      List.pairwise_map.mpr hapart
    exact (Document.delivers_select _ _ d (hkeys.sublist List.filter_sublist) entry.1
      (List.mem_filter.mpr ⟨List.mem_map_of_mem hentry, decide_eq_true hne⟩)).2
  · -- A field with the identifier as its first name would be it or beneath it.
    rw [Projection.keepsIdentifier_of_forall spec hspec hkeep]
    refine Document.head?_select _ d v (fun field hfield hhead => ?_) hv
    rcases List.mem_filter.mp hfield with ⟨hmem, hne⟩
    rcases List.mem_map.mp hmem with ⟨entry, hentry, rfl⟩
    rcases Path.eq_or_prefix_of_head? entry.1 "_id" hhead with hid | hprefix
    · exact of_decide_eq_true hne hid
    · exact hbeneath entry hentry hprefix

/-- A cart with two items, of which one has a price. -/
def cart : Document :=
  [("name", .string "Ann"), ("_id", .int32 7),
   ("items", .array
     [.document [("sku", .string "a1"), ("price", .int32 3)], .document [("sku", .string "b2")]])]

/-- Two fields beneath the items of a cart, and one beneath its name. -/
def cartFields : Document :=
  [("items.sku", .boolean true), ("name.first", .int32 2), ("items.price", .boolean true)]

theorem run_inclusions_delivers_cart :
    (cartFields.Pairwise fun a b => (Path.ofString a.1).Diverges (Path.ofString b.1)) ∧
      ∃ out, Stage.run (fun _ => []) (Stage.ofDocument (Listing.stage "$project" cartFields))
          [cart] = .ok [out] ∧
        out.head? = some ("_id", .int32 7) ∧
        out.at? ["items", "sku"] = some (.array [.string "a1", .string "b2"]) ∧
        out.at? ["items", "price"] = some (.array [.int32 3]) ∧
        out.at? ["name", "first"] = none := by
  have hspec : ∀ entry ∈ cartFields, entry.2.isInclusion = true ∨
      entry.1 = "_id" ∧ entry.2.isExclusion = true := by decide
  have hfield : ∃ entry ∈ cartFields, entry.1 ≠ "_id" := by decide
  have hapart : cartFields.Pairwise
      fun a b => (Path.ofString a.1).Diverges (Path.ofString b.1) := by decide
  rcases run_inclusions_delivers (fun _ => []) cartFields [cart] hspec hfield hapart with
    ⟨outs, hrun, hall⟩
  rcases List.forall₂_cons_left_iff.mp hall with ⟨out, rest, ⟨hdelivers, hid⟩, hrest, rfl⟩
  rw [List.forall₂_nil_left_iff.mp hrest] at hrun
  have hsku : Path.ofString "items.sku" = ["items", "sku"] := by decide
  have hprice : Path.ofString "items.price" = ["items", "price"] := by decide
  have hfirst : Path.ofString "name.first" = ["name", "first"] := by decide
  refine ⟨hapart, out, hrun, hid (by decide) (by decide) _ rfl, ?_, ?_, ?_⟩
  · rw [← hsku, hdelivers ("items.sku", .boolean true) (by simp [cartFields]) (by decide), hsku]
    rfl
  · rw [← hprice, hdelivers ("items.price", .boolean true) (by simp [cartFields]) (by decide),
      hprice]
    rfl
  · rw [← hfirst, hdelivers ("name.first", .int32 2) (by simp [cartFields]) (by decide), hfirst]
    rfl

end Stage

end DocQuery
