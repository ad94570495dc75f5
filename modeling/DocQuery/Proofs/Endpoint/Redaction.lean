import DocQuery.Endpoint.Handler
import DocQuery.Proofs.Endpoint.Expansion
import DocQuery.Proofs.Pipeline.Fields
import Mathlib.Data.List.TakeWhile

/-!
# Hidden Fields of Documents

A hidden field without a point in its name hides just the paths that start with
it. So what is at any other path is the same before and after hidden fields are
removed, and two documents of which the same remains look the same to whatever
reads visible paths only. They stay so when a value is put into both, wherever
it is, and when relations are expanded that start from visible fields.

Two documents count as the same here if they are equal after hidden fields are
removed. An operation keeps that if it changes one name of a document, in a way
that does not depend on the others (`Document.ChangesAt`): a change under a
hidden name is removed with it, and one under a visible name commutes with
removing. Writing and removing at a path are such operations, so no induction on
paths is needed any more.

## Main definitions

* `Path.first`: The first name of a written path.
* `Document.ChangesAt`: An operation that changes one name.

## Theorems

* `Profile.isHidden_iff`: A path is hidden if its first name is.
* `Document.at?_ofString_congr`: What is at a path depends on its first name.
* `Profile.at?_redact`: What is at a path when hidden fields are removed.
* `Profile.at?_congr`: Visible paths lead to the same values.
* `Profile.redact_congr`: Changes at one name keep what remains the same.
* `Profile.redact_expandAll`: So do relations.
* `Profile.pick_congr`: Fields that are picked are the same, unless all are kept.
-/

namespace DocQuery

/-- If equal views of elements give lists with equal views, so do lists of
    elements. -/
theorem map_flatMap_congr {α β γ δ : Type} (f : α → List β) (g : α → γ) (g' : β → δ)
    (h : ∀ x y, g x = g y → (f x).map g' = (f y).map g') (xs ys : List α)
    (hmap : xs.map g = ys.map g) : (xs.flatMap f).map g' = (ys.flatMap f).map g' := by
  induction xs generalizing ys with
  | nil =>
      rw [List.map_nil, eq_comm, List.map_eq_nil_iff] at hmap
      rw [hmap]
  | cons x xs ih =>
      rcases ys with _ | ⟨y, ys⟩
      · cases hmap
      · rw [List.map_cons, List.map_cons, List.cons.injEq] at hmap
        rw [List.flatMap_cons, List.flatMap_cons, List.map_append, List.map_append,
          h x y hmap.1, ih ys hmap.2]

namespace Path

/-- The first name of a written path. -/
def first (s : String) : String :=
  String.ofList (s.toList.takeWhile fun c => !(c == '.'))

/-- The first piece of a list is what comes before the first separator. -/
theorem pieces_eq_cons {α : Type} (sep : α → Bool) (s : List α) :
    ∃ ps, Text.pieces sep s = s.takeWhile (fun c => !sep c) :: ps := by
  induction s with
  | nil => exact ⟨[], rfl⟩
  | cons c s ih =>
      rcases ih with ⟨ps, hps⟩
      rw [Text.pieces, hps]
      by_cases hc : sep c = true
      · exact ⟨s.takeWhile (fun c => !sep c) :: ps, by simp [hc]⟩
      · exact ⟨ps, by simp [hc]⟩

/-- A written path starts with its first name. -/
theorem ofString_eq_cons (s : String) : ∃ rest, ofString s = first s :: rest := by
  rcases pieces_eq_cons (· == '.') s.toList with ⟨ps, hps⟩
  refine ⟨ps.map String.ofList, ?_⟩
  unfold ofString first
  rw [hps, List.map_cons]

theorem takeWhile_append_of_notMem (field rest : List Char) (h : '.' ∉ field) :
    (field ++ rest).takeWhile (fun c => !(c == '.')) =
      field ++ rest.takeWhile (fun c => !(c == '.')) := by
  apply List.takeWhile_append_of_pos
  intro c hc
  rw [Bool.not_eq_true', beq_eq_false_iff_ne]
  rintro rfl
  exact h hc

/-- A name without a point is the first name of the path that it is. -/
theorem first_of_notMem (s : String) (h : '.' ∉ s.toList) : first s = s := by
  have htake := takeWhile_append_of_notMem s.toList [] h
  rw [List.append_nil, List.takeWhile_nil, List.append_nil] at htake
  rw [first, htake, String.ofList_toList]

end Path

namespace Profile

/-- A field without a point in its name covers the paths that start with it. -/
theorem covers_iff (field path : String) (h : '.' ∉ field.toList) :
    covers field path = true ↔ Path.first path = field := by
  have hfirst : ∀ rest, path.toList = field.toList ++ rest →
      (Path.first path = field ↔ rest.takeWhile (fun c => !(c == '.')) = []) := by
    intro rest hrest
    unfold Path.first
    rw [hrest, Path.takeWhile_append_of_notMem _ _ h, ← String.toList_inj, String.toList_ofList,
      List.append_right_eq_self]
  unfold covers
  rcases hcover : field.toList.isPrefixOf? path.toList with _ | rest
  · -- If the field is no prefix of the path, it is not its first name either.
    simp only [Bool.false_eq_true, false_iff]
    intro heq
    -- A path starts with its first name.
    have hpath := List.takeWhile_append_dropWhile (p := fun c => !(c == '.')) (l := path.toList)
    rw [← heq] at hcover
    unfold Path.first at hcover
    rw [String.toList_ofList] at hcover
    have hsome := List.isPrefixOf?_eq_some_iff_append_eq.mpr hpath
    rw [hcover] at hsome
    cases hsome
  · rw [hfirst rest (List.isPrefixOf?_eq_some_iff_append_eq.mp hcover).symm]
    rcases rest with _ | ⟨c, rest⟩
    · simp
    · by_cases hc : c = '.'
      · simp [hc]
      · simp [hc]

/-- A path is hidden if its first name is. -/
theorem isHidden_iff (p : Profile) (hdot : ∀ field ∈ p.hiddenFields, '.' ∉ field.toList)
    (path : String) : p.isHidden path = true ↔ Path.first path ∈ p.hiddenFields := by
  unfold isHidden
  rw [List.any_eq_true]
  constructor
  · rintro ⟨field, hfield, hcovers⟩
    rw [(covers_iff field path (hdot field hfield)).mp hcovers]
    exact hfield
  · intro h
    exact ⟨_, h, (covers_iff _ path (hdot _ h)).mpr rfl⟩

end Profile

namespace Document

/-- What is at a path depends on what is under its first name. -/
theorem at?_ofString_congr (d e : Document) (path : String)
    (h : d.get? (Path.first path) = e.get? (Path.first path)) :
    d.at? (Path.ofString path) = e.at? (Path.ofString path) := by
  rcases Path.ofString_eq_cons path with ⟨rest, hrest⟩
  rw [hrest, at?_cons, at?_cons, h]

/-- Does an operation change one name only, whatever else the document has? -/
structure ChangesAt (op : Document → Document) (name : String) : Prop where
  erase_self : ∀ d, erase (op d) name = erase d name
  erase_of_ne : ∀ d other, name ≠ other → erase (op d) other = op (erase d other)

theorem changesAt_setAt (name : String) (rest : Path) (v : Value) :
    ChangesAt (fun d => setAt d (name :: rest) v) name where
  erase_self d := erase_setAt_self d name rest v
  erase_of_ne d other h := erase_setAt_of_ne d name other rest v h

theorem changesAt_removeAt (name : String) (rest : Path) :
    ChangesAt (fun d => removeAt d (name :: rest)) name where
  erase_self d := erase_removeAt_self d name rest
  erase_of_ne d other h := erase_removeAt_of_ne d name other rest h

/-- A change under one of the names that are erased does not show. -/
theorem foldl_erase_of_mem (op : Document → Document) (name : String) (h : ChangesAt op name)
    (fields : List String) (hname : name ∈ fields) (d : Document) :
    fields.foldl erase (op d) = fields.foldl erase d := by
  induction fields generalizing d with
  | nil => cases hname
  | cons field fields ih =>
      rw [List.foldl_cons, List.foldl_cons]
      by_cases hfield : name = field
      · rw [← hfield, h.erase_self]
      · rw [h.erase_of_ne d field hfield]
        exact ih ((List.mem_cons.mp hname).resolve_left hfield) _

/-- A change under another name may be made before or after erasing. -/
theorem foldl_erase_of_notMem (op : Document → Document) (name : String) (h : ChangesAt op name)
    (fields : List String) (hname : name ∉ fields) (d : Document) :
    fields.foldl erase (op d) = op (fields.foldl erase d) := by
  induction fields generalizing d with
  | nil => rfl
  | cons field fields ih =>
      rw [List.mem_cons, not_or] at hname
      rw [List.foldl_cons, List.foldl_cons, h.erase_of_ne d field hname.1]
      exact ih hname.2 _

theorem get?_foldl_erase (fields : List String) (name : String) (d : Document) :
    get? (fields.foldl erase d) name = if name ∈ fields then none else get? d name := by
  induction fields generalizing d with
  | nil => rfl
  | cons field fields ih =>
      rw [List.foldl_cons, ih]
      by_cases hname : name = field
      · rw [hname, get?_erase_self, ite_self, if_pos List.mem_cons_self]
      · simp only [List.mem_cons, hname, false_or, get?_erase_of_ne d field name hname]

theorem foldl_erase_eq_filter (fields : List String) (d : Document) :
    fields.foldl erase d = d.filter fun p => p.1 ∉ fields := by
  induction fields generalizing d with
  | nil => simp
  | cons field fields ih =>
      rw [List.foldl_cons, ih, erase, List.filter_filter]
      apply List.filter_congr
      intro p _
      simp only [List.mem_cons, not_or, Bool.decide_and, Bool.and_comm, ne_eq]

end Document

namespace Profile

/-- To remove hidden fields twice is to remove them once. -/
theorem redact_redact (p : Profile) (d : Document) : p.redact (p.redact d) = p.redact d := by
  unfold redact
  rw [Document.foldl_erase_eq_filter, Document.foldl_erase_eq_filter, List.filter_filter]
  simp only [Bool.and_self]

theorem get?_redact (p : Profile) (d : Document) (name : String) :
    (p.redact d).get? name = if name ∈ p.hiddenFields then none else d.get? name :=
  Document.get?_foldl_erase p.hiddenFields name d

/-- To remove the hidden fields is to remove what is at the paths whose first
    name is one of them. -/
theorem at?_redact (p : Profile) (d : Document) (path : String) :
    (p.redact d).at? (Path.ofString path) =
      if Path.first path ∈ p.hiddenFields then none else d.at? (Path.ofString path) := by
  rcases Path.ofString_eq_cons path with ⟨rest, hrest⟩
  rw [hrest, Document.at?_cons, Document.at?_cons, get?_redact]
  split
  · rfl
  · rfl

/-- Documents of which the same remains when hidden fields are removed have the
    same at visible paths. -/
theorem at?_congr (p : Profile) (hdot : ∀ field ∈ p.hiddenFields, '.' ∉ field.toList)
    (path : String) (hpath : p.isHidden path = false) (d e : Document)
    (h : p.redact d = p.redact e) : d.at? (Path.ofString path) = e.at? (Path.ofString path) := by
  have hname : Path.first path ∉ p.hiddenFields := by
    rw [← p.isHidden_iff hdot path, hpath]
    exact Bool.false_ne_true
  have hd := p.at?_redact d path
  have he := p.at?_redact e path
  rw [if_neg hname] at hd he
  rw [← hd, h, he]

/-- An operation at one name keeps the same remaining of two documents. -/
theorem redact_congr (p : Profile) (op : Document → Document) (name : String)
    (hop : Document.ChangesAt op name) (d e : Document) (h : p.redact d = p.redact e) :
    p.redact (op d) = p.redact (op e) := by
  unfold redact at h ⊢
  by_cases hname : name ∈ p.hiddenFields
  · rw [Document.foldl_erase_of_mem op name hop _ hname, h,
      Document.foldl_erase_of_mem op name hop _ hname]
  · rw [Document.foldl_erase_of_notMem op name hop _ hname, h,
      Document.foldl_erase_of_notMem op name hop _ hname]

theorem redact_setAt_congr (p : Profile) (path : Path) (v : Value) (d e : Document)
    (h : p.redact d = p.redact e) : p.redact (d.setAt path v) = p.redact (e.setAt path v) := by
  rcases path with _ | ⟨name, rest⟩
  · exact h
  · exact p.redact_congr _ name (Document.changesAt_setAt name rest v) d e h

theorem redact_removeAt_congr (p : Profile) (path : Path) (d e : Document)
    (h : p.redact d = p.redact e) : p.redact (d.removeAt path) = p.redact (e.removeAt path) := by
  rcases path with _ | ⟨name, rest⟩
  · exact h
  · exact p.redact_congr _ name (Document.changesAt_removeAt name rest) d e h

/-- A relation that starts from a visible field keeps the same remaining of what
    it makes. -/
theorem redact_expand (p : Profile) (hdot : ∀ field ∈ p.hiddenFields, '.' ∉ field.toList)
    (r : Relation) (hlocal : p.isHidden r.localField = false) (foreign : List Document)
    (d e : Document) (h : p.redact d = p.redact e) :
    (r.expand foreign d).map p.redact = (r.expand foreign e).map p.redact := by
  have hpartners : r.join.partners foreign d = r.join.partners foreign e := by
    have hat := p.at?_congr hdot r.localField hlocal d e h
    unfold Join.partners Relation.join
    simp only [hat]
  -- The same partners are put into both documents, and what remains of them stays the
  -- same.
  have hjoined : p.redact (r.join.apply foreign d) = p.redact (r.join.apply foreign e) := by
    unfold Join.apply
    rw [hpartners]
    exact p.redact_setAt_congr _ _ d e h
  unfold Relation.expand
  by_cases hsingle : r.single = true
  · simp only [if_pos hsingle, hpartners]
    rcases r.join.partners foreign e with _ | ⟨partner, partners⟩
    · simp only [List.map_cons, List.map_nil]
      rw [p.redact_removeAt_congr _ _ _ hjoined]
    · rw [List.map_map, List.map_map]
      apply List.map_congr_left
      intro other _
      exact p.redact_setAt_congr _ _ _ _ hjoined
  · simp only [if_neg hsingle, List.map_cons, List.map_nil]
    rw [hjoined]

/-- Relations that start from visible fields keep the same remaining of the
    documents that they make. -/
theorem redact_expandAll (p : Profile) (hdot : ∀ field ∈ p.hiddenFields, '.' ∉ field.toList)
    (collection : String → List Document) (relations : List Relation)
    (hlocal : ∀ r ∈ relations, p.isHidden r.localField = false) (d e : Document)
    (h : p.redact d = p.redact e) :
    (Relation.expandAll collection relations d).map p.redact =
      (Relation.expandAll collection relations e).map p.redact := by
  induction relations generalizing d e with
  | nil => exact congrArg (fun x => [x]) h
  | cons r relations ih =>
      rw [List.forall_mem_cons] at hlocal
      rw [Relation.expandAll, Relation.expandAll]
      exact map_flatMap_congr _ _ _ (ih hlocal.2) _ _
        (p.redact_expand hdot r hlocal.1 _ d e h)

/-- Visible fields of two documents of which the same remains are the same,
    unless the fields stand for all of them. -/
theorem pick_congr (p : Profile) (hdot : ∀ field ∈ p.hiddenFields, '.' ∉ field.toList)
    (hid : p.isHidden "_id" = false) (fields : List String)
    (hfields : ∀ field ∈ fields, p.isHidden field = false) :
    (∀ d : Document, d.pick fields = d) ∨
      ∀ d e : Document, p.redact d = p.redact e → d.pick fields = e.pick fields := by
  unfold Document.pick
  rcases hkept : fields.filter fun field => field ≠ "_id" with _ | ⟨first, more⟩
  · exact Or.inl fun d => rfl
  · refine Or.inr fun d e h => ?_
    -- The identifier is kept without being asked for, so it must not be hidden.
    have hidentifier : Projection.identifierOf d = Projection.identifierOf e := by
      have hat := p.at?_congr hdot "_id" hid d e h
      have hget : d.get? "_id" = e.get? "_id" := by
        have hpath : Path.ofString "_id" = ["_id"] := by decide
        rw [hpath, Document.at?_cons, Document.at?_cons] at hat
        simpa [Value.at?_nil] using hat
      unfold Projection.identifierOf
      rw [hget]
    have hadd : ∀ field ∈ first :: more, ∀ out, Document.addField d out field =
        Document.addField e out field := by
      intro field hfield out
      have hmem : field ∈ fields := by
        rw [← hkept] at hfield
        exact List.mem_of_mem_filter hfield
      unfold Document.addField
      rw [p.at?_congr hdot field (hfields field hmem) d e h]
    rw [hidentifier]
    exact List.foldl_ext _ _ _ fun out field hfield => hadd field hfield out

end Profile

end DocQuery
