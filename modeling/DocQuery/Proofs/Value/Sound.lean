import DocQuery.Filter.Reader
import DocQuery.Proofs.Value.Overlay
import DocQuery.Proofs.Value.Path

/-!
# Sound Values

What can be taken for granted of the values in a store: the names of a
document are distinct at every depth, and the options of a pattern stand in
alphabetical order. What may stand under a name that starts with a dollar sign
is a parameter. Nothing may in a *storable* value, and such values are closed
under reading, writing and removing at paths whose names have no dollar sign.

A path with a dollar sign in it leads nowhere in a storable document, unless it
crosses an array, where it leads to an array of nothing. Such values are
*hollow*: arrays and documents all the way down. A document into which hollow
values have been put at marked paths is called *settled*.

The parameter is there because of projections. A request names the fields that it
wants to keep, and it may name a path with a dollar sign in it. What is found
there is written at that path, so marked names come into a document that had
none. `nothing` describes what is stored and `hollow` what a projection makes of
it, and the lemmas about the parts of a value hold for both.

Values are nested through lists in two ways, as the elements of an array and as
the entries of a document, so what is computed by recursion is mutual over three
functions, and so are the proofs about it. Where only paths matter,
`Value.pathInduction` replaces that by one induction: it gives the hypothesis
for the elements of an array and for what a document has under a name, which is
where a path can lead.

## Main definitions

* `Value.sound`: Is a value sound, for a test of what is under marked names?
* `Value.hollow`: Is a value made of arrays and documents only?
* `Document.Sound`, `Storable`, `Settled`: The same for documents.
* `Path.isMarked`: Has a path a name that starts with a dollar sign?

## Theorems

* `sound_document_iff`: A document is sound if its entries are.
* `sound_of_hollow`: Hollow values are sound whatever their names are.
* `sound_of_at?`, `hollow_of_at?`: What a path leads to in a storable value.
* `sound_setAt`, `sound_removeAt`: Writing and removing keep documents sound.
* `settled_setAt`: So does writing a hollow value at any path.
-/

namespace DocQuery

/-- Has a path a name that starts with a dollar sign? -/
def Path.isMarked (path : Path) : Bool :=
  path.any Filter.isOperator

instance (d : Document) : Decidable d.Distinct :=
  inferInstanceAs (Decidable (Document.keys d).Nodup)

mutual

/-- Are the names of all documents in a value distinct and the options of all
    patterns in order, and do the values under names that start with a dollar
    sign pass a test? -/
def Value.sound (marked : Value → Bool) : Value → Bool
  | .array items => Value.soundItems marked items
  | .document fields => decide (Document.Distinct fields) && Value.soundFields marked fields
  | .scopedCode _ scope => decide (Document.Distinct scope) && Value.soundFields marked scope
  | .regex _ options => decide (options.toList.Pairwise fun a b => a.toNat ≤ b.toNat)
  | _ => true

/-- Are all values of a list sound? -/
def Value.soundItems (marked : Value → Bool) : List Value → Bool
  | [] => true
  | v :: items => Value.sound marked v && Value.soundItems marked items

/-- May the values of a document stand under their names? -/
def Value.soundFields (marked : Value → Bool) : List (String × Value) → Bool
  | [] => true
  | (name, v) :: rest =>
    (if Filter.isOperator name then marked v else Value.sound marked v) &&
      Value.soundFields marked rest

end

mutual

/-- Is a value made of arrays and documents only? -/
def Value.hollow : Value → Bool
  | .array items => Value.hollowItems items
  | .document fields => decide (Document.Distinct fields) && Value.hollowFields fields
  | _ => false

/-- Are all values of a list hollow? -/
def Value.hollowItems : List Value → Bool
  | [] => true
  | v :: items => Value.hollow v && Value.hollowItems items

/-- Are all values of a document hollow? -/
def Value.hollowFields : List (String × Value) → Bool
  | [] => true
  | (_, v) :: rest => Value.hollow v && Value.hollowFields rest

end

namespace Value

/-- May a value stand under a name? -/
def soundUnder (marked : Value → Bool) (name : String) (v : Value) : Bool :=
  if Filter.isOperator name then marked v else v.sound marked

/-- The test that nothing passes. -/
def nothing (_ : Value) : Bool := false

theorem soundItems_iff (marked : Value → Bool) (items : List Value) :
    soundItems marked items = true ↔ ∀ v ∈ items, v.sound marked = true := by
  induction items with
  | nil => simp only [soundItems, List.not_mem_nil, false_imp_iff, implies_true]
  | cons v items ih =>
      rw [soundItems, Bool.and_eq_true, ih, List.forall_mem_cons]

/-- Entries are sound if each value may stand under its name. -/
theorem soundFields_iff (marked : Value → Bool) (fields : Document) :
    soundFields marked fields = true ↔ ∀ p ∈ fields, soundUnder marked p.1 p.2 = true := by
  induction fields with
  | nil => simp only [soundFields, List.not_mem_nil, false_imp_iff, implies_true]
  | cons p fields ih =>
      rw [soundFields, Bool.and_eq_true, ih, List.forall_mem_cons]
      rfl

theorem hollowItems_iff (items : List Value) :
    hollowItems items = true ↔ ∀ v ∈ items, v.hollow = true := by
  induction items with
  | nil => simp only [hollowItems, List.not_mem_nil, false_imp_iff, implies_true]
  | cons v items ih =>
      rw [hollowItems, Bool.and_eq_true, ih, List.forall_mem_cons]

theorem hollowFields_iff (fields : Document) :
    hollowFields fields = true ↔ ∀ p ∈ fields, p.2.hollow = true := by
  induction fields with
  | nil => simp only [hollowFields, List.not_mem_nil, false_imp_iff, implies_true]
  | cons p fields ih =>
      rw [hollowFields, Bool.and_eq_true, ih, List.forall_mem_cons]

theorem sound_array_iff (marked : Value → Bool) (items : List Value) :
    (array items).sound marked = true ↔ ∀ v ∈ items, v.sound marked = true := by
  rw [sound, soundItems_iff]

theorem hollow_array_iff (items : List Value) :
    (array items).hollow = true ↔ ∀ v ∈ items, v.hollow = true := by
  rw [hollow, hollowItems_iff]

/-- A hollow value is an array or a document. -/
theorem eq_of_hollow (v : Value) (hv : v.hollow = true) :
    (∃ items, v = array items) ∨ ∃ fields, v = document fields := by
  cases v with
  | array items => exact Or.inl ⟨items, rfl⟩
  | document fields => exact Or.inr ⟨fields, rfl⟩
  | _ => exact absurd hv Bool.false_ne_true

end Value

namespace Document

/-- Are the names distinct, and may each value stand under its name? -/
def Sound (marked : Value → Bool) (d : Document) : Prop :=
  Distinct d ∧ ∀ p ∈ d, Value.soundUnder marked p.1 p.2 = true

/-- Sound, with no name that starts with a dollar sign at any depth. -/
def Storable (d : Document) : Prop :=
  d.Sound Value.nothing

/-- Sound, with nothing but arrays and documents under the names that start
    with a dollar sign. -/
def Settled (d : Document) : Prop :=
  d.Sound Value.hollow

instance (marked : Value → Bool) (d : Document) : Decidable (d.Sound marked) :=
  inferInstanceAs (Decidable (_ ∧ _))

instance (d : Document) : Decidable d.Storable :=
  inferInstanceAs (Decidable (d.Sound _))

/-- Are the names distinct and all values hollow? -/
def Hollow (d : Document) : Prop :=
  Distinct d ∧ ∀ p ∈ d, p.2.hollow = true

theorem sound_nil (marked : Value → Bool) : Sound marked [] :=
  ⟨distinct_nil, fun _ h => absurd h List.not_mem_nil⟩

end Document

namespace Value

/-- A document is sound if its names are distinct and its entries are sound. -/
theorem sound_document_iff (marked : Value → Bool) (d : Document) :
    (document d).sound marked = true ↔ d.Sound marked := by
  rw [sound, Bool.and_eq_true, decide_eq_true_eq, soundFields_iff, Document.Sound]

/-- A document is hollow if its names are distinct and its values are hollow. -/
theorem hollow_document_iff (d : Document) : (document d).hollow = true ↔ d.Hollow := by
  rw [hollow, Bool.and_eq_true, decide_eq_true_eq, hollowFields_iff, Document.Hollow]

mutual

/-- A weaker test of what is under marked names makes more values sound. -/
theorem sound_mono (marked weaker : Value → Bool)
    (h : ∀ v, marked v = true → weaker v = true) :
    ∀ v : Value, v.sound marked = true → v.sound weaker = true
  | .array items, hv => by
      rw [sound] at hv ⊢
      exact soundItems_mono marked weaker h items hv
  | .document fields, hv => by
      rw [sound, Bool.and_eq_true] at hv ⊢
      exact ⟨hv.1, soundFields_mono marked weaker h fields hv.2⟩
  | .scopedCode _ scope, hv => by
      rw [sound, Bool.and_eq_true] at hv ⊢
      exact ⟨hv.1, soundFields_mono marked weaker h scope hv.2⟩
  -- The order of options does not depend on the test.
  | .regex _ _, hv => hv
  | .null, _ | .boolean _, _ | .int32 _, _ | .int64 _, _ | .double _, _ | .decimal _, _
  | .string _, _ | .objectId _, _ | .dateTime _, _ | .binary _ _, _ | .timestamp _ _, _
  | .symbol _, _ | .code _, _ | .undefined, _ | .minKey, _ | .maxKey, _
  | .pointer _ _, _ => rfl

theorem soundItems_mono (marked weaker : Value → Bool)
    (h : ∀ v, marked v = true → weaker v = true) :
    ∀ items : List Value, soundItems marked items = true → soundItems weaker items = true
  | [], _ => rfl
  | v :: items, hv => by
      rw [soundItems, Bool.and_eq_true] at hv ⊢
      exact ⟨sound_mono marked weaker h v hv.1, soundItems_mono marked weaker h items hv.2⟩

theorem soundFields_mono (marked weaker : Value → Bool)
    (h : ∀ v, marked v = true → weaker v = true) :
    ∀ fields : List (String × Value),
      soundFields marked fields = true → soundFields weaker fields = true
  | [], _ => rfl
  | (name, v) :: rest, hv => by
      rw [soundFields, Bool.and_eq_true] at hv ⊢
      refine ⟨?_, soundFields_mono marked weaker h rest hv.2⟩
      have hv := hv.1
      split
      · rename_i hname
        rw [if_pos hname] at hv
        exact h v hv
      · rename_i hname
        rw [if_neg hname] at hv
        exact sound_mono marked weaker h v hv

end

mutual

/-- Hollow values are sound whatever their names are. -/
theorem sound_of_hollow : ∀ v : Value, v.hollow = true → v.sound hollow = true
  | .array items, hv => by
      rw [hollow] at hv
      rw [sound]
      exact soundItems_of_hollow items hv
  | .document fields, hv => by
      rw [hollow, Bool.and_eq_true] at hv
      rw [sound, Bool.and_eq_true]
      exact ⟨hv.1, soundFields_of_hollow fields hv.2⟩
  | .null, hv | .boolean _, hv | .int32 _, hv | .int64 _, hv | .double _, hv | .decimal _, hv
  | .string _, hv | .objectId _, hv | .dateTime _, hv | .binary _ _, hv | .timestamp _ _, hv
  | .symbol _, hv | .code _, hv | .undefined, hv | .minKey, hv | .maxKey, hv
  | .pointer _ _, hv | .regex _ _, hv | .scopedCode _ _, hv => nomatch hv

theorem soundItems_of_hollow :
    ∀ items : List Value, hollowItems items = true → soundItems hollow items = true
  | [], _ => rfl
  | v :: items, hv => by
      rw [hollowItems, Bool.and_eq_true] at hv
      rw [soundItems, Bool.and_eq_true]
      exact ⟨sound_of_hollow v hv.1, soundItems_of_hollow items hv.2⟩

theorem soundFields_of_hollow :
    ∀ fields : List (String × Value),
      hollowFields fields = true → soundFields hollow fields = true
  | [], _ => rfl
  | (name, v) :: rest, hv => by
      rw [hollowFields, Bool.and_eq_true] at hv
      rw [soundFields, Bool.and_eq_true]
      refine ⟨?_, soundFields_of_hollow rest hv.2⟩
      split
      · exact hv.1
      · exact sound_of_hollow v hv.1

end

/-- Induction along paths: a path leads into the elements of an array and into
    the entries of a document, and nowhere in all other values. -/
theorem pathInduction {P : Value → Prop}
    (array : ∀ items : List Value, (∀ v ∈ items, P v) → P (.array items))
    (document : ∀ fields : Document,
      (∀ name v, Document.get? fields name = some v → P v) → P (.document fields))
    (leaf : ∀ v : Value, (∀ name rest, v.at? (name :: rest) = none) → P v) : ∀ v, P v
  | .array items => array items fun v hv =>
      have := List.sizeOf_lt_of_mem hv
      pathInduction array document leaf v
  | .document fields => document fields fun name v hv =>
      -- What a name stands for is an entry, so it is smaller than the document.
      have : sizeOf v < sizeOf fields := by
        have h := List.sizeOf_lt_of_mem (Document.mem_of_get?_eq_some fields name v hv)
        rw [Prod.mk.sizeOf_spec] at h
        omega
      pathInduction array document leaf v
  | .null | .boolean _ | .int32 _ | .int64 _ | .double _ | .decimal _ | .string _ | .objectId _
  | .dateTime _ | .regex _ _ | .binary _ _ | .timestamp _ _ | .symbol _ | .code _
  | .scopedCode _ _ | .undefined | .minKey | .maxKey | .pointer _ _ => leaf _ fun _ _ => rfl
termination_by v => sizeOf v
decreasing_by all_goals simp_wf; omega

end Value

namespace Document

/-- What a sound document has under a name may stand there. -/
theorem soundUnder_of_get? (marked : Value → Bool) (d : Document) (name : String) (v : Value)
    (hd : d.Sound marked) (h : get? d name = some v) : Value.soundUnder marked name v = true :=
  hd.2 (name, v) (mem_of_get?_eq_some d name v h)

/-- Under an ordinary name it is sound itself. -/
theorem sound_of_get? (marked : Value → Bool) (d : Document) (name : String) (v : Value)
    (hd : d.Sound marked) (hname : Filter.isOperator name = false) (h : get? d name = some v) :
    v.sound marked = true := by
  -- The name is an ordinary one, so the test for marked ones is not asked.
  have hv := soundUnder_of_get? marked d name v hd h
  rw [Value.soundUnder, hname] at hv
  exact hv

/-- A storable document has nothing under a name with a dollar sign. -/
theorem get?_of_isOperator (d : Document) (name : String) (hd : d.Storable)
    (hname : Filter.isOperator name = true) : get? d name = none := by
  rcases h : get? d name with _ | v
  · rfl
  · have hv := soundUnder_of_get? _ d name v hd h
    rw [Value.soundUnder, if_pos hname] at hv
    exact absurd hv Bool.false_ne_true

end Document

namespace Path

/-- A path is marked at its first name or later. -/
theorem isMarked_cons (name : String) (rest : Path) :
    isMarked (name :: rest) = (Filter.isOperator name || isMarked rest) := rfl

theorem isMarked_cons_eq_false_iff (name : String) (rest : Path) :
    isMarked (name :: rest) = false ↔ Filter.isOperator name = false ∧ isMarked rest = false := by
  rw [isMarked_cons, Bool.or_eq_false_iff]

end Path

namespace Value

/-- What a path without dollar signs leads to in a sound value is sound. -/
theorem sound_of_at? (marked : Value → Bool) (v w : Value) (path : Path)
    (hpath : path.isMarked = false) (hv : v.sound marked = true) (h : v.at? path = some w) :
    w.sound marked = true := by
  induction v using pathInduction generalizing path w with
  -- Through an array, each value found is found in an element.
  | array items ih =>
      rcases path with _ | ⟨name, rest⟩
      · rw [at?_nil, Option.some.injEq] at h
        exact h ▸ hv
      · rw [sound_array_iff] at hv
        rw [at?_array, Option.some.injEq] at h
        rw [← h, sound_array_iff]
        intro u hu
        rcases List.mem_filterMap.mp hu with ⟨item, hitem, hat⟩
        exact ih item hitem u (name :: rest) hpath (hv item hitem) hat
  | document fields ih =>
      rcases path with _ | ⟨name, rest⟩
      · rw [at?_nil, Option.some.injEq] at h
        exact h ▸ hv
      · -- The first name is ordinary, so what is under it is sound, and the rest has no mark
        -- either.
        rw [Path.isMarked_cons_eq_false_iff] at hpath
        rw [sound_document_iff] at hv
        rw [at?_document, Option.bind_eq_some_iff] at h
        rcases h with ⟨u, hu, hw⟩
        have hsound := Document.sound_of_get? marked fields name u hv hpath.1 hu
        exact ih name u hu w rest hpath.2 hsound hw
  -- A value of another kind is found at the empty path only.
  | leaf v hleaf =>
      rcases path with _ | ⟨name, rest⟩
      · rw [at?_nil, Option.some.injEq] at h
        exact h ▸ hv
      · rw [hleaf] at h
        cases h

/-- What a path with a dollar sign leads to in a storable value is hollow. -/
theorem hollow_of_at? (v w : Value) (path : Path) (hpath : path.isMarked = true)
    (hv : v.sound nothing = true) (h : v.at? path = some w) : w.hollow = true := by
  rcases path with _ | ⟨name, rest⟩
  · exact absurd hpath Bool.false_ne_true
  induction v using pathInduction generalizing name rest w with
  | array items ih =>
      rw [sound_array_iff] at hv
      rw [at?_array, Option.some.injEq] at h
      rw [← h, hollow_array_iff]
      intro u hu
      rcases List.mem_filterMap.mp hu with ⟨item, hitem, hat⟩
      exact ih item hitem u (hv item hitem) name rest hpath hat
  | document fields ih =>
      rw [sound_document_iff] at hv
      rw [at?_document, Option.bind_eq_some_iff] at h
      rcases h with ⟨u, hu, hw⟩
      -- Nothing stands under a marked name, so the first name found is an ordinary one.
      have hname : Filter.isOperator name = false := by
        by_contra hc
        rw [Document.get?_of_isOperator fields name hv ((Bool.not_eq_false _).mp hc)] at hu
        cases hu
      rw [Path.isMarked_cons, hname, Bool.false_or] at hpath
      -- The mark is further on, so the path goes on.
      rcases rest with _ | ⟨next, rest⟩
      · exact absurd hpath Bool.false_ne_true
      · have hsound := Document.sound_of_get? nothing fields name u hv hname hu
        exact ih name u hu w hsound next rest hpath hw
  | leaf v hleaf =>
      rw [hleaf] at h
      cases h

end Value

namespace Document

/-- A value that may stand under a name can be put there. -/
theorem sound_insert (marked : Value → Bool) (d : Document) (name : String) (v : Value)
    (hd : d.Sound marked) (hv : Value.soundUnder marked name v = true) :
    (insert d name v).Sound marked := by
  refine ⟨distinct_insert d name v hd.1, fun p hp => ?_⟩
  rcases mem_insert_iff d name v p hp with rfl | hp
  · exact hv
  · exact hd.2 p hp

/-- A sound value may stand under an ordinary name. -/
theorem soundUnder_of_sound (marked : Value → Bool) (name : String) (v : Value)
    (hname : Filter.isOperator name = false) (hv : v.sound marked = true) :
    Value.soundUnder marked name v = true := by
  rw [Value.soundUnder, hname]
  exact hv

theorem sound_erase (marked : Value → Bool) (d : Document) (name : String)
    (hd : d.Sound marked) : (erase d name).Sound marked :=
  ⟨hd.1.sublist (List.filter_sublist.map _), fun p hp => hd.2 p (List.mem_of_mem_filter hp)⟩

/-- The document under an ordinary name is sound, also if there is none. -/
theorem sound_child (marked : Value → Bool) (d : Document) (name : String)
    (hd : d.Sound marked) (hname : Filter.isOperator name = false) :
    (child d name).Sound marked := by
  rw [child]
  split
  · rename_i fields h
    exact (Value.sound_document_iff marked fields).mp (sound_of_get? marked d name _ hd hname h)
  · exact sound_nil marked

/-- Writing a sound value at a path without dollar signs keeps a document
    sound. -/
theorem sound_setAt (marked : Value → Bool) (d : Document) (path : Path) (v : Value)
    (hd : d.Sound marked) (hpath : path.isMarked = false) (hv : v.sound marked = true) :
    (setAt d path v).Sound marked := by
  induction path generalizing d with
  | nil => exact hd
  | cons name rest ih =>
      have hname := (Path.isMarked_cons_eq_false_iff name rest).mp hpath
      cases rest with
      | nil => exact sound_insert marked d name v hd (soundUnder_of_sound marked name v hname.1 hv)
      | cons next rest =>
          -- The document that is put under the name is the one that was there, written
          -- into.
          refine sound_insert marked d name _ hd (soundUnder_of_sound marked name _ hname.1 ?_)
          rw [Value.sound_document_iff]
          exact ih (child d name) (sound_child marked d name hd hname.1) hname.2

/-- Removing at a path without dollar signs keeps a document sound. -/
theorem sound_removeAt (marked : Value → Bool) (d : Document) (path : Path)
    (hd : d.Sound marked) (hpath : path.isMarked = false) : (removeAt d path).Sound marked := by
  induction path generalizing d with
  | nil => exact hd
  | cons name rest ih =>
      have hname := (Path.isMarked_cons_eq_false_iff name rest).mp hpath
      cases rest with
      | nil => exact sound_erase marked d name hd
      | cons next rest =>
          rw [removeAt]
          split
          · -- A document is under the name, and is put back with less in it.
            rename_i fields h
            have hf := sound_of_get? marked d name _ hd hname.1 h
            rw [Value.sound_document_iff] at hf
            refine sound_insert marked d name _ hd (soundUnder_of_sound marked name _ hname.1 ?_)
            rw [Value.sound_document_iff]
            exact ih fields hf hname.2
          · exact hd

theorem hollow_nil : Hollow [] :=
  ⟨distinct_nil, fun _ h => absurd h List.not_mem_nil⟩

/-- A hollow document with a hollow value put into it is hollow. -/
theorem hollow_insert (d : Document) (name : String) (v : Value) (hd : d.Hollow)
    (hv : v.hollow = true) : (insert d name v).Hollow := by
  refine ⟨distinct_insert d name v hd.1, fun p hp => ?_⟩
  rcases mem_insert_iff d name v p hp with rfl | hp
  · exact hv
  · exact hd.2 p hp

/-- The document under any name of a hollow one is hollow. -/
theorem hollow_child (d : Document) (name : String) (hd : d.Hollow) : (child d name).Hollow := by
  rw [child]
  split
  · rename_i fields h
    exact (Value.hollow_document_iff fields).mp (hd.2 _ (mem_of_get?_eq_some d name _ h))
  · exact hollow_nil

/-- Writing a hollow value keeps a document hollow, whatever the path is. -/
theorem hollow_setAt (d : Document) (path : Path) (v : Value) (hd : d.Hollow)
    (hv : v.hollow = true) : (setAt d path v).Hollow := by
  induction path generalizing d with
  | nil => exact hd
  | cons name rest ih =>
      cases rest with
      | nil => exact hollow_insert d name v hd hv
      | cons next rest =>
          refine hollow_insert d name _ hd ?_
          rw [Value.hollow_document_iff]
          exact ih (child d name) (hollow_child d name hd)

/-- The child under a name with a dollar sign is hollow. -/
theorem hollow_child_of_settled (d : Document) (name : String) (hd : d.Settled)
    (hname : Filter.isOperator name = true) : (child d name).Hollow := by
  rw [child]
  split
  · rename_i fields h
    have hv := soundUnder_of_get? _ d name _ hd h
    rw [Value.soundUnder, if_pos hname] at hv
    exact (Value.hollow_document_iff fields).mp hv
  · exact hollow_nil

/-- A hollow value may stand under any name of a settled document. -/
theorem soundUnder_of_hollow (name : String) (v : Value) (hv : v.hollow = true) :
    Value.soundUnder Value.hollow name v = true := by
  rw [Value.soundUnder]
  split
  · exact hv
  · exact Value.sound_of_hollow v hv

/-- Writing a hollow value keeps a document settled, whatever the path is. -/
theorem settled_setAt (d : Document) (path : Path) (v : Value) (hd : d.Settled)
    (hv : v.hollow = true) : (setAt d path v).Settled := by
  induction path generalizing d with
  | nil => exact hd
  | cons name rest ih =>
      cases rest with
      | nil => exact sound_insert _ d name v hd (soundUnder_of_hollow name v hv)
      | cons next rest =>
          refine sound_insert _ d name _ hd ?_
          by_cases hname : Filter.isOperator name = true
          · -- Beneath a dollar sign everything has to be hollow, and it is.
            refine soundUnder_of_hollow name _ ((Value.hollow_document_iff _).mpr ?_)
            exact hollow_setAt _ _ v (hollow_child_of_settled d name hd hname) hv
          · -- Beneath an ordinary name the document is settled again.
            have hname : Filter.isOperator name = false := (Bool.not_eq_true _).mp hname
            refine soundUnder_of_sound _ name _ hname ((Value.sound_document_iff _ _).mpr ?_)
            exact ih (child d name) (sound_child _ d name hd hname)

/-- What is storable is settled: nothing under marked names is less than
    anything hollow. -/
theorem settled_of_storable (d : Document) (hd : d.Storable) : d.Settled := by
  have h := (Value.sound_document_iff _ d).mpr hd
  exact (Value.sound_document_iff _ d).mp
    (Value.sound_mono _ _ (fun _ hv => absurd hv Bool.false_ne_true) _ h)

end Document

end DocQuery
