import DocQuery.Proofs.Number.Rounding
import DocQuery.Proofs.Pipeline.Fields

/-!
# Allowed Fields

A written projection that only includes fields allows them: the documents that
come out have no other names at the top than the identifier and the first names
of the fields. It does not matter how a field is included, by true or by a
number other than zero, nor in which order the fields stand.

The identifier by name alone is no choice of fields. Such a projection lets
every document pass as it is.

The identifier is the only name that is treated in this way. Every other name
makes the projection one that keeps, and then the identifier comes out along
with it, whether it is named or not. So the first case of the result asks for a
name that is not the identifier, and the second case for none; between them they
leave no written projection out.

## Main definitions

* `Value.isInclusion`: Does a value in a written projection include its field?

## Theorems

* `FieldChoice.ofValue_of_isInclusion`: What such a value says.
* `Projection.ofDocument_of_isInclusion`: A projection that only includes fields
  is that of their names.
* `Document.mem_keys_pick`: The names of a document with some of its fields.
* `Stage.run_inclusions`: What comes out of a projection that only includes
  fields.
-/

namespace DocQuery

open Number

/-- Does a value in a written projection include its field? So do true and the
    numbers other than zero. -/
def Value.isInclusion : Value → Bool
  | .boolean b => b
  | .int32 n => n.toInt != 0
  | .int64 n => n.toInt != 0
  | .double x => x.magnitude != 0
  | _ => false

/-- A value that includes its field is read as such. -/
theorem FieldChoice.ofValue_of_isInclusion (v : Value) (h : v.isInclusion = true) :
    FieldChoice.ofValue v = .included := by
  have hnumber : ∀ x : Binary64, x.magnitude ≠ 0 →
      (if x.compare? .zero = some .eq then FieldChoice.excluded else .included) = .included :=
    fun x hx => if_neg (mt (Binary64.compare?_zero_eq_some_eq x).mp hx)
  -- As for values that drop their field, the comparison with zero is one of doubles.
  have hinteger : ∀ n : Int, (n != 0) = true → (Binary64.ofInt n).magnitude ≠ 0 :=
    fun n hn => mt (Binary64.magnitude_ofInt_eq_zero_iff n).mp (bne_iff_ne.mp hn)
  cases v with
  | boolean b => exact if_pos h
  | int32 n => exact hnumber _ (hinteger _ h)
  | int64 n => exact hnumber _ (hinteger _ h)
  | double x => exact hnumber x (bne_iff_ne.mp h)
  | _ => exact Bool.noConfusion h

/-- A projection that only includes fields is that of their names. -/
theorem Projection.ofDocument_of_isInclusion (spec : Document)
    (h : ∀ entry ∈ spec, entry.2.isInclusion = true) :
    Projection.ofDocument spec = Projection.ofDocument (fieldsDocument spec.keys) := by
  have hchoices : choices spec = choices (fieldsDocument spec.keys) := by
    rw [choices_fieldsDocument, Document.keys, List.map_map]
    apply List.map_congr_left
    intro entry hentry
    rw [FieldChoice.ofValue_of_isInclusion _ (h entry hentry)]
    rfl
  unfold Projection.ofDocument
  rw [hchoices]

namespace Document

/-- Putting a value at a path brings in the first name of the path at most. -/
theorem mem_keys_setAt (d : Document) (path : Path) (v : Value) (key : String)
    (h : key ∈ (d.setAt path v).keys) : path.head? = some key ∨ key ∈ d.keys := by
  match path with
  | [] => exact Or.inr h
  | [name] =>
      rcases (mem_keys_insert d name key v).mp h with rfl | hd
      · exact Or.inl rfl
      · exact Or.inr hd
  -- What is written deeper is put under the first name, so at the top only that one is
  -- new.
  | name :: _ :: _ =>
      rcases (mem_keys_insert d name key _).mp h with rfl | hd
      · exact Or.inl rfl
      · exact Or.inr hd

/-- One more field brings in its first name at most, and nothing if it is
    missing. -/
theorem mem_keys_addField (d out : Document) (field key : String)
    (h : key ∈ (addField d out field).keys) :
    (Path.ofString field).head? = some key ∨ key ∈ out.keys := by
  unfold addField Projection.put at h
  split at h
  · exact mem_keys_setAt out _ _ key h
  · exact Or.inr h

/-- A document with some of its fields, of which one is not the identifier, has
    the identifier and the first names of the fields at the top. -/
theorem mem_keys_pick (fields : List String) (d : Document) (key : String)
    (hfields : ∃ field ∈ fields, field ≠ "_id") (h : key ∈ (d.pick fields).keys) :
    key = "_id" ∨ ∃ field ∈ fields, (Path.ofString field).head? = some key := by
  have hidentifier : key ∈ (Projection.identifierOf d).keys → key = "_id" := by
    unfold Projection.identifierOf
    split
    · exact List.mem_singleton.mp
    · exact fun hkey => absurd hkey List.not_mem_nil
  unfold pick at h
  split at h
  · -- No field is left without the identifier, although there is another one.
    rename_i hnone
    rcases hfields with ⟨field, hfield, hne⟩
    rw [List.filter_eq_nil_iff] at hnone
    exact absurd (decide_eq_true hne) (hnone field hfield)
  · refine holds_foldl_addField (fun out => key ∈ out.keys →
      key = "_id" ∨ ∃ field ∈ fields, (Path.ofString field).head? = some key)
      d _ ?_ _ (fun hkey => Or.inl (hidentifier hkey)) h
    -- Each field that is added brings in its first name at most.
    intro field hfield out hout hkey
    rcases mem_keys_addField d out field key hkey with hhead | hkey
    · exact Or.inr ⟨field, List.mem_of_mem_filter hfield, hhead⟩
    · exact hout hkey

/-- The identifier by name alone stands for the document as it is. -/
theorem pick_identifier (fields : List String) (d : Document)
    (h : ∀ field ∈ fields, field = "_id") : d.pick fields = d := by
  have hnone : (fields.filter fun field => field ≠ "_id") = [] := by
    rw [List.filter_eq_nil_iff]
    intro field hfield
    rw [h field hfield]
    decide
  unfold pick
  rw [hnone]

end Document

namespace Stage

/-- A stage that only includes fields, of which one is not the identifier,
    allows nothing but them and the identifier at the top of a document. With
    the identifier alone it changes nothing. -/
theorem run_inclusions (collection : String → List Document) (spec : Document)
    (docs : List Document) (h : ∀ entry ∈ spec, entry.2.isInclusion = true) :
    ∃ out, Stage.run collection (Stage.ofDocument (Listing.stage "$project" spec)) docs =
        .ok out ∧
      out.length = docs.length ∧
      ((∃ entry ∈ spec, entry.1 ≠ "_id") → ∀ d ∈ out, ∀ key ∈ d.keys,
        key = "_id" ∨ ∃ entry ∈ spec, (Path.ofString entry.1).head? = some key) ∧
      ((∀ entry ∈ spec, entry.1 = "_id") → out = docs) := by
  rcases Projection.ofDocument_fieldsDocument spec.keys with ⟨p, hp, happly⟩
  -- The stage is that of the names, for which it is known what comes out.
  have hstage : Stage.ofDocument (Listing.stage "$project" spec) = .project p := by
    rw [← Projection.ofDocument_of_isInclusion spec h] at hp
    simp [Listing.stage, Stage.ofDocument, Stage.ofEntry, Stage.ofFields, Stage.ofExcept, hp]
  have hmapM : docs.mapM p.apply = .ok (docs.map (Document.pick spec.keys)) :=
    mapM_ok _ _ docs fun d _ => happly d
  refine ⟨docs.map (Document.pick spec.keys), ?_, List.length_map _, ?_, ?_⟩
  · rw [hstage, Stage.run, hmapM]
    rfl
  · rintro ⟨entry, hentry, hne⟩ out hout key hkey
    rcases List.mem_map.mp hout with ⟨d, -, rfl⟩
    have hfields : ∃ field ∈ spec.keys, field ≠ "_id" :=
      ⟨entry.1, List.mem_map_of_mem hentry, hne⟩
    rcases Document.mem_keys_pick spec.keys d key hfields hkey with hid | ⟨field, hfield, hhead⟩
    · exact Or.inl hid
    · rcases List.mem_map.mp hfield with ⟨other, hother, rfl⟩
      exact Or.inr ⟨other, hother, hhead⟩
  · intro hidentifier
    have hfields : ∀ field ∈ spec.keys, field = "_id" := by
      intro field hfield
      rcases List.mem_map.mp hfield with ⟨entry, hentry, rfl⟩
      exact hidentifier entry hentry
    rw [List.map_congr_left fun d _ => Document.pick_identifier spec.keys d hfields, List.map_id']

theorem run_inclusions_sample :
    ∃ out, Stage.run (fun _ => [])
        (Stage.ofDocument (Listing.stage "$project"
          [("name", .boolean true), ("home.city", .int32 2)]))
        [[("_id", .int32 1), ("name", .string "Ann"), ("key", .string "k"),
          ("home", .document [("city", .string "Rome"), ("code", .int32 7)])]] = .ok out ∧
      out.length = 1 ∧ ∀ d ∈ out, ∀ key ∈ d.keys, key = "_id" ∨ key = "name" ∨ key = "home" := by
  rcases run_inclusions (fun _ => []) [("name", .boolean true), ("home.city", .int32 2)]
    [[("_id", .int32 1), ("name", .string "Ann"), ("key", .string "k"),
      ("home", .document [("city", .string "Rome"), ("code", .int32 7)])]] (by decide) with
    ⟨out, hrun, hlength, hallowed, -⟩
  refine ⟨out, hrun, hlength, fun d hd key hkey => ?_⟩
  have hother : ∃ entry ∈ ([("name", .boolean true), ("home.city", .int32 2)] : Document),
      entry.1 ≠ "_id" :=
    ⟨("name", .boolean true), List.mem_cons_self .., by decide⟩
  rcases hallowed hother d hd key hkey with hid | ⟨entry, hentry, hhead⟩
  · exact Or.inl hid
  · simp only [List.mem_cons, List.not_mem_nil, or_false] at hentry
    rcases hentry with rfl | rfl
    · exact Or.inr (Or.inl (Option.some.inj hhead).symm)
    · exact Or.inr (Or.inr (Option.some.inj hhead).symm)

/-- The identifier alone is an inclusion too, and still every other field of a
    document comes out. -/
theorem run_identifier_alone :
    (Value.int32 1).isInclusion = true ∧
      Stage.run (fun _ => []) (Stage.ofDocument (Listing.stage "$project" [("_id", .int32 1)]))
          [[("_id", .int32 1), ("name", .string "Ann")]] =
        .ok [[("_id", .int32 1), ("name", .string "Ann")]] ∧
      ¬("name" = "_id" ∨ (Path.ofString "_id").head? = some "name") := by
  refine ⟨by decide, ?_, by decide⟩
  rfl

end Stage

end DocQuery
