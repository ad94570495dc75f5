import DocQuery.Proofs.Pipeline.Delivery
import DocQuery.Proofs.Pipeline.Join
import DocQuery.Proofs.Value.Removal

/-!
# Excluded Fields

A written projection that only drops fields takes away what is at their paths,
and leaves alone what is elsewhere. It does not matter how a field is dropped, by
false or by a number that is zero, nor in which order the fields stand.

What is read through an array is not taken away. An array on the way to a field
keeps all that is in it, unless the array itself, or something around it, is
dropped by another field of the same projection.

The value that is left at a dropped field is described by `Document.Shielded`:
some array lies on the way to it that no other dropped field takes away with it.
Both directions are needed, as removing stops at an array silently and there is
no error that would tell the fields that were removed from those that were not.

## Theorems

* `Projection.ofDocument_of_isExclusion`: A projection that only drops fields is
  that of their paths.
* `Stage.run_exclusions`: What is left at the fields that a projection drops.
* `Stage.run_exclusion_behind_array`: A dropped field of the items in an array.
-/

namespace DocQuery

namespace Projection

/-- A projection that only drops fields is that of their paths. -/
theorem ofDocument_of_isExclusion (spec : Document)
    (h : ∀ entry ∈ spec, entry.2.isExclusion = true) :
    ∃ paths, ofDocument spec = .ok (.drop paths) ∧
      ∀ path, path ∈ paths ↔ path ∈ spec.keys.map Path.ofString := by
  have hchoices : choices spec = spec.keys.map fun field => (field, .excluded) := by
    rw [choices, Document.keys, List.map_map]
    apply List.map_congr_left
    intro entry hentry
    rw [FieldChoice.ofValue_of_isExclusion _ (h entry hentry)]
    rfl
  have hincluded : included (choices spec) = [] := by
    rw [hchoices, included, List.filterMap_map, List.filterMap_eq_nil_iff]
    intro field _
    by_cases hfield : field = "_id"
    · simp [hfield]
    · simp [hfield]
  -- The identifier is not among the dropped fields proper; it is dropped by a mark of its
  -- own, which is put back as a path in the end.
  have hexcluded : ∀ path, path ∈ excluded (choices spec) ↔
      ∃ field ∈ spec.keys, field ≠ "_id" ∧ Path.ofString field = path := by
    intro path
    rw [hchoices, excluded, List.filterMap_map, List.mem_filterMap]
    refine exists_congr fun field => and_congr_right fun _ => ?_
    by_cases hfield : field = "_id"
    · simp [hfield]
    · simp [hfield]
  have hkeeps : keepsIdentifier (choices spec) = true ↔ "_id" ∉ spec.keys := by
    rw [hchoices, keepsIdentifier, List.all_map, List.all_eq_true]
    constructor
    · intro hall hid
      exact Bool.noConfusion (hall "_id" hid)
    · intro hid field hmem
      have hfield : field ≠ "_id" := fun heq => hid (heq ▸ hmem)
      simp [hfield]
  have hid : Path.ofString "_id" = ["_id"] := rfl
  unfold ofDocument
  simp only [hincluded, List.isEmpty_nil, if_true]
  refine ⟨_, rfl, fun path => ?_⟩
  rw [List.mem_map]
  split
  · -- The identifier is kept, so no field that is dropped is the identifier.
    rename_i hkept
    rw [hexcluded]
    refine exists_congr fun field => and_congr_right fun hmem => and_iff_right ?_
    rintro rfl
    exact hkeeps.mp hkept hmem
  · -- The identifier is one of the fields, and its path comes last.
    rename_i hdropped
    rw [hkeeps, not_not] at hdropped
    rw [List.mem_append, List.mem_singleton, hexcluded]
    constructor
    · rintro (⟨field, hmem, -, hpath⟩ | rfl)
      · exact ⟨field, hmem, hpath⟩
      · exact ⟨"_id", hdropped, hid⟩
    · rintro ⟨field, hmem, rfl⟩
      by_cases hfield : field = "_id"
      · exact Or.inr (hfield ▸ hid)
      · exact Or.inl ⟨field, hmem, hfield, rfl⟩

end Projection

namespace Stage

/-- A stage that only drops fields never fails. At each of them is left what was
    there if an array on the way stays, and nothing otherwise. What is apart from
    all of them stays as it is. -/
theorem run_exclusions (collection : String → List Document) (spec : Document)
    (docs : List Document) (h : ∀ entry ∈ spec, entry.2.isExclusion = true) :
    ∃ outs, Stage.run collection (Stage.ofDocument (Listing.stage "$project" spec)) docs =
        .ok outs ∧
      List.Forall₂ (fun d out =>
        (∀ entry ∈ spec, ∀ v, out.at? (Path.ofString entry.1) = some v ↔
          d.at? (Path.ofString entry.1) = some v ∧
            d.Shielded (spec.keys.map Path.ofString) (Path.ofString entry.1)) ∧
        ∀ path, (∀ entry ∈ spec, (Path.ofString entry.1).Diverges path) →
          out.at? path = d.at? path) docs outs := by
  rcases Projection.ofDocument_of_isExclusion spec h with ⟨paths, hp, hpaths⟩
  refine ⟨_, run_project collection spec _ (fun d => paths.foldl Document.removeAt d) hp
    (fun _ => rfl) docs, ?_⟩
  rw [List.forall₂_map_right_iff, List.forall₂_same]
  refine fun d _ => ⟨fun entry hentry v => ?_, fun path hapart => ?_⟩
  · have hmem : Path.ofString entry.1 ∈ paths :=
      (hpaths _).mpr (List.mem_map_of_mem (List.mem_map_of_mem hentry))
    have hne : ∀ other ∈ paths, other ≠ [] := by
      intro other hother
      rcases List.mem_map.mp ((hpaths other).mp hother) with ⟨field, -, rfl⟩
      exact Path.ofString_ne_nil field
    -- The paths need not stand in the order of the fields. Only which paths there are
    -- matters to what is shielded.
    rw [Document.at?_foldl_removeAt_eq_some_iff d paths _ hmem hne v]
    unfold Document.Shielded
    simp only [hpaths]
  · refine Document.at?_foldl_removeAt_of_diverges d paths path fun other hother => ?_
    rcases List.mem_map.mp ((hpaths other).mp hother) with ⟨field, hfield, rfl⟩
    rcases List.mem_map.mp hfield with ⟨entry, hentry, rfl⟩
    exact hapart entry hentry

/-- A cart loses its name, and keeps the prices of its items, though they are
    dropped too. -/
theorem run_exclusions_cart :
    ∃ out, Stage.run (fun _ => []) (Stage.ofDocument (Listing.stage "$project"
        [("items.price", .boolean false), ("name", .int32 0)])) [cart] = .ok [out] ∧
      out.at? ["name"] = none ∧
      out.at? ["items", "price"] = some (.array [.int32 3]) ∧
      out.at? ["_id"] = some (.int32 7) := by
  have hspec : ∀ entry ∈ ([("items.price", .boolean false), ("name", .int32 0)] : Document),
      entry.2.isExclusion = true := by decide
  rcases run_exclusions (fun _ => []) _ [cart] hspec with ⟨outs, hrun, hall⟩
  rcases List.forall₂_cons_left_iff.mp hall with ⟨out, rest, ⟨hleft, helsewhere⟩, hrest, rfl⟩
  rw [List.forall₂_nil_left_iff.mp hrest] at hrun
  simp only [List.forall_mem_cons, Document.keys, List.map_cons, List.map_nil] at hleft helsewhere
  have hprice : Path.ofString "items.price" = ["items", "price"] := by decide
  have hname : Path.ofString "name" = ["name"] := by decide
  rw [hprice, hname] at hleft helsewhere
  refine ⟨out, hrun, ?_, ?_, helsewhere ["_id"] (by decide)⟩
  · refine Option.eq_none_iff_forall_ne_some.mpr fun v hv => ?_
    rcases ((hleft.2.1 v).mp hv).2 with ⟨front, hfront, harray, haway⟩
    -- There is no array before the name, and one at the name itself is dropped.
    rcases List.prefix_cons_iff.mp hfront with rfl | ⟨rest, rfl, -⟩
    · exact Document.not_hasArrayAt_nil cart harray
    · exact haway ["name"] (by decide) ⟨rest, rfl⟩
  · exact (hleft.1 _).mpr ⟨rfl, ["items"], ⟨["price"], rfl⟩, ⟨_, rfl⟩, by decide⟩

/-- The prices in a cart are dropped, but as the items are in an array, they are
    all still there. -/
theorem run_exclusion_behind_array :
    (Value.int32 0).isExclusion = true ∧
      Stage.run (fun _ => []) (Stage.ofDocument (Listing.stage "$project"
        [("items.price", .int32 0)])) [cart] = .ok [cart] ∧
      Path.ofString "items.price" = ["items", "price"] ∧
      cart.at? ["items", "price"] = some (.array [.int32 3]) ∧
      (Value.array [.int32 3]).HasLeaf (.int32 3) := by
  refine ⟨by decide, by rfl, by decide, by rfl, ?_⟩
  exact .element (List.mem_singleton_self _) (.self nofun)

end Stage

end DocQuery
