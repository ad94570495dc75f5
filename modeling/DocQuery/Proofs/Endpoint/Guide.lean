import DocQuery.Proofs.Endpoint.Pipelines
import DocQuery.Proofs.Request.Identifier
import DocQuery.Proofs.Request.Shape
import DocQuery.Proofs.Text.Escaping

/-!
# Guides and Filters

The guide of a collection describes a filter for each of its fields. Whether the
field is a filter of a list has been decided elsewhere: the request passes over
names that cannot be fields, and the profile passes over hidden fields and what
is beneath them. The guide leaves out the hidden fields themselves only.

So it describes every filter there is, but it goes on to describe fields beneath
hidden ones and names that are no fields, for which a list has no filter.

What a filter is has to be said without the functions that the program decides
it with. So it is read off the pipeline: the stages are searched for a match,
the match for its conjunction, and the conjunction for the names of fields. A
field has a filter (`Profile.Honours`) if it is among these names for every
query string that gives it a value, whatever the value is, and this is compared
with the names in the body of the guide.

## Main definitions

* `Beneath`: A path beneath a field.
* `Pipeline.filtered`: The fields that a pipeline filters by.
* `Call.guide`: The call for the guide.
* `Profile.Honours`: Is there a filter for a field?
* `Response.guidedNames`: The names that a guide describes.

## Theorems

* `Profile.isHidden_iff_beneath`: Which paths are hidden.
* `Profile.honours_iff`: Which fields there are filters for.
* `Profile.guidedNames_guide`: What the guide describes.
* `Profile.guided_honoured`: The guide and the filters.
* `Profile.guided_beneath_hidden`: A field beneath a hidden one.
-/

namespace DocQuery

/-- Does a path go on from a field, after a point? -/
def Beneath (field path : String) : Prop :=
  ∃ rest, path = field ++ "." ++ rest

namespace Pipeline

/-- The names in the clauses of a conjunction. -/
def conjoined : Value → List String
  | .document fields => match Document.get? fields "$and" with
    | some clauses => (listed clauses).flatMap Document.keys
    | none => []
  | _ => []

/-- The fields that a pipeline filters by. -/
def filtered (pipeline : List Document) : List String :=
  (arguments "$match" pipeline).flatMap conjoined

theorem conjoined_clauses (clauses : List Document) :
    conjoined (.document [("$and", .array (clauses.map .document))]) =
      clauses.flatMap Document.keys := by
  simp only [conjoined, Document.get?, if_true, listed_array]

end Pipeline

/-- The call for the guide of a collection. -/
def Call.guide (query : Option (List Char)) : Call where
  method := "GET".toList
  target := { path := "/_params".toList, query := query }

/-- The member of a value with a name. Only objects have members. -/
def Json.member? : Json → String → Option Json
  | .object fields, name => Json.field? fields name
  | _, _ => none

/-- The name in a description. -/
def Json.guidedName? (guide : Json) : Option String :=
  match guide.member? "name" with
  | some (.string name) => some name
  | _ => none

/-- The names of the parameters that a response describes for lists. -/
def Response.guidedNames (r : Response) : List String :=
  match (r.body.member? "data").bind fun data => data.member? "list" with
  | some (.array guides) => guides.filterMap Json.guidedName?
  | _ => []

namespace Profile

/-- Is there a filter for a field? A query string that gives it a value, and
    nothing else, brings a condition on it into the pipeline, whatever the value
    is. -/
def Honours (p : Profile) (field : String) : Prop :=
  ∀ value query, Text.FormEncoding.pairs query = [(field.toList, value)] →
    ∃ pipeline, (p.plan (Call.list query)).pipelines = [pipeline] ∧
      field ∈ Pipeline.filtered pipeline

theorem covers_iff_beneath (field path : String) :
    covers field path = true ↔ path = field ∨ Beneath field path := by
  unfold covers Beneath
  constructor
  · intro h
    split at h
    · rename_i hcover
      have hpath := List.isPrefixOf?_eq_some_iff_append_eq.mp hcover
      rw [List.append_nil] at hpath
      exact Or.inl (String.toList_inj.mp hpath.symm)
    · rename_i c rest hcover
      have hpath := List.isPrefixOf?_eq_some_iff_append_eq.mp hcover
      refine Or.inr ⟨String.ofList rest, String.toList_inj.mp ?_⟩
      rw [← hpath, eq_of_beq h]
      simp
    · cases h
  · -- The other way round, it is clear what is left of the path behind the field.
    have hcover : ∀ rest, path.toList = field.toList ++ rest →
        field.toList.isPrefixOf? path.toList = some rest := fun rest hrest =>
      List.isPrefixOf?_eq_some_iff_append_eq.mpr hrest.symm
    rintro (rfl | ⟨rest, rfl⟩)
    · rw [hcover [] (List.append_nil _).symm]
    · rw [hcover ('.' :: rest.toList) (by simp)]
      rfl

/-- A path is hidden if it is a hidden field or beneath one. -/
theorem isHidden_iff_beneath (p : Profile) (path : String) :
    p.isHidden path = true ↔
      path ∈ p.hiddenFields ∨ ∃ field ∈ p.hiddenFields, Beneath field path := by
  unfold isHidden
  rw [List.any_eq_true]
  constructor
  · rintro ⟨field, hfield, hcovers⟩
    rcases (covers_iff_beneath field path).mp hcovers with rfl | hbeneath
    · exact Or.inl hfield
    · exact Or.inr ⟨field, hfield, hbeneath⟩
  · rintro (hpath | ⟨field, hfield, hbeneath⟩)
    · exact ⟨path, hpath, (covers_iff_beneath path path).mpr (Or.inl rfl)⟩
    · exact ⟨field, hfield, (covers_iff_beneath field path).mpr (Or.inr hbeneath)⟩

theorem keys_visible (p : Profile) (d : Document) :
    (p.visible d).keys = d.keys.filter fun name => !p.isHidden name := by
  unfold visible Document.keys
  rw [List.filter_map]
  rfl

/-- The fields that the pipeline for a list filters by. Beside the filters on
    visible fields there is the search clause. -/
theorem filtered_compile (p : Profile) (r : ListRequest) :
    Pipeline.filtered (p.listing r).compile =
      (r.filters.keys.filter fun name => !p.isHidden name) ++
        (Listing.searchClause? r.search p.searchFields).toList.flatMap Document.keys := by
  have hkeys : Pipeline.filtered (p.listing r).compile =
      (Listing.clauses (p.visible r.filters)
        (Listing.searchClause? r.search p.searchFields)).flatMap Document.keys := by
    unfold Pipeline.filtered
    rw [p.arguments_match r]
    rcases Listing.clauses (p.visible r.filters)
      (Listing.searchClause? r.search p.searchFields) with _ | ⟨clause, clauses⟩
    · rfl
    · simp only [List.flatMap_singleton]
      exact Pipeline.conjoined_clauses (clause :: clauses)
  rw [hkeys, Listing.clauses, List.flatMap_append, ← keys_visible]
  -- Without filters there is no clause for them, and so no name.
  rcases p.visible r.filters with _ | ⟨entry, entries⟩
  · rfl
  · rw [if_neg (by simp), List.flatMap_singleton]

/-- The search clause has a single name, and there is none without a term. -/
theorem eq_of_mem_searchClause? (term : String) (fields : List String) (name : String)
    (h : name ∈ (Listing.searchClause? term fields).toList.flatMap Document.keys) :
    name = "$or" ∧ term ≠ "" := by
  unfold Listing.searchClause? at h
  split at h
  · cases h
  · rename_i hsome
    refine ⟨List.mem_singleton.mp h, ?_⟩
    rintro rfl
    exact hsome rfl

/-- A request with one parameter filters by that parameter, if by any. -/
theorem mem_filtered_iff (p : Profile) (field : String) (value query : List Char)
    (h : Text.FormEncoding.pairs query = [(field.toList, value)]) :
    field ∈ Pipeline.filtered (p.listingFor (Params.parse query)).compile ↔
      Request.isFilterName field = true ∧ p.isHidden field = false := by
  have hparams : Params.parse query = Params.ofPairs [(field, String.ofList value)] := by
    unfold Params.parse
    rw [h, List.map_singleton, String.ofList_toList]
  have hkeys : (Request.filters (Params.parse query)).keys =
      ([field].filter Request.isFilterName).eraseDups := by
    rw [hparams, Request.keys_filters_ofPairs, List.map_singleton]
  have hsearch : field ∉ (Listing.searchClause?
      (ListRequest.ofParams (Params.parse query)).search p.searchFields).toList.flatMap
        Document.keys := by
    intro hmem
    rcases eq_of_mem_searchClause? _ _ _ hmem with ⟨rfl, hterm⟩
    -- The only parameter is not the one for the term.
    rw [hparams] at hterm
    exact hterm rfl
  have hfilters : (ListRequest.ofParams (Params.parse query)).filters =
      Request.filters (Params.parse query) := rfl
  rw [listingFor, filtered_compile, List.mem_append, or_iff_left hsearch, List.mem_filter, hfilters,
    hkeys, List.mem_eraseDups, List.mem_filter, Bool.not_eq_true', List.mem_singleton,
    and_iff_right rfl]

/-- There is a filter for a field if its name can be that of a field, it has no
    other meaning, and it is not hidden. -/
theorem honours_iff (p : Profile) (field : String) :
    p.Honours field ↔ (field ≠ "" ∧ field ∉ reservedNames ∧ field.toList.head? ≠ some '$') ∧
      p.isHidden field = false := by
  rw [← Request.isFilterName_iff]
  constructor
  · intro hhonours
    -- Whatever the name is, some query string has it with a value.
    have hpairs := Text.FormEncoding.pairs_escaped field.toList []
    rcases hhonours _ _ hpairs with ⟨pipeline, hpipeline, hmem⟩
    rw [plan_call_list, Plan.pipelines] at hpipeline
    rw [← List.singleton_inj.mp hpipeline, mem_filtered_iff p field _ _ hpairs] at hmem
    exact hmem
  · intro hfield value query hpairs
    refine ⟨(p.listingFor (Params.parse query)).compile, ?_, ?_⟩
    · rw [plan_call_list, Plan.pipelines]
    · exact (mem_filtered_iff p field _ _ hpairs).mpr hfield

/-- The guide describes the reserved names, and after them the fields that are
    neither reserved nor among the hidden ones. -/
theorem guidedNames_guide (p : Profile) (query : Option (List Char))
    (store : List Document → Answer) :
    (p.handle (Call.guide query) store).guidedNames =
      ["page", "limit", "sort", "fields", "search", "populate"] ++
        p.fieldNames.filter fun field => !isReserved field && !p.hiddenFields.contains field := by
  have hroute : route "/_params".toList = .guide := by decide
  have hhandle : p.handle (Call.guide query) store = p.guideResponse := by
    unfold handle plan Call.guide
    rw [if_neg (not_not_intro rfl)]
    simp only [hroute, Plan.run]
  -- Each description has its name as a member.
  have hnames : ∀ guides : List ParamGuide,
      (guides.map guideJson).filterMap Json.guidedName? = guides.map ParamGuide.name := by
    intro guides
    rw [List.filterMap_map, ← List.filterMap_eq_map]
    rfl
  have hlist : p.guideResponse.guidedNames =
      ((ParamGuide.forList p.fieldNames p.hiddenFields).map guideJson).filterMap
        Json.guidedName? := rfl
  have hfilter : ParamGuide.name ∘ ParamGuide.ofFilter = id := rfl
  rw [hhandle, hlist, hnames, ParamGuide.forList, List.map_append, List.map_map, hfilter,
    List.map_id]
  rfl

/-- The guide and the filters. The guide describes the fields that are neither
    reserved nor literally among the hidden ones, in their order. There is a
    filter for the names that can be fields, are not reserved, and are neither
    hidden nor beneath a hidden field. So the guide describes every filter on one
    of the fields, and what it describes without there being a filter is empty,
    starts with a dollar sign or is beneath a hidden field. -/
theorem guided_honoured (p : Profile) (query : Option (List Char))
    (store : List Document → Answer) :
    let names := (p.handle (Call.guide query) store).guidedNames.filter (· ∉ reservedNames)
    names = p.fieldNames.filter (fun field => field ∉ reservedNames ∧ field ∉ p.hiddenFields) ∧
    (∀ field, p.Honours field ↔
      field ≠ "" ∧ field ∉ reservedNames ∧ field.toList.head? ≠ some '$' ∧
        field ∉ p.hiddenFields ∧ ∀ hidden ∈ p.hiddenFields, ¬ Beneath hidden field) ∧
    (∀ field ∈ p.fieldNames, p.Honours field → field ∈ names) ∧
    ∀ field ∈ names, ¬ p.Honours field ↔
      field = "" ∨ field.toList.head? = some '$' ∨
        ∃ hidden ∈ p.hiddenFields, Beneath hidden field := by
  intro names
  have hnames : names =
      p.fieldNames.filter (fun field => field ∉ reservedNames ∧ field ∉ p.hiddenFields) := by
    have hreserved : ["page", "limit", "sort", "fields", "search", "populate"].filter
        (· ∉ reservedNames) = [] := by
      decide
    show List.filter _ _ = _
    rw [guidedNames_guide, List.filter_append, hreserved, List.nil_append, List.filter_filter]
    refine List.filter_congr fun field _ => ?_
    simp [isReserved]
  -- To be hidden is to be one of the hidden fields or beneath one.
  have hhonours : ∀ field, p.Honours field ↔
      field ≠ "" ∧ field ∉ reservedNames ∧ field.toList.head? ≠ some '$' ∧
        field ∉ p.hiddenFields ∧ ∀ hidden ∈ p.hiddenFields, ¬ Beneath hidden field := by
    intro field
    rw [honours_iff, ← Bool.not_eq_true, isHidden_iff_beneath]
    push Not
    tauto
  refine ⟨hnames, hhonours, ?_, ?_⟩
  · intro field hfield h
    rcases (hhonours field).mp h with ⟨-, hreserved, -, hhidden, -⟩
    rw [hnames, List.mem_filter]
    exact ⟨hfield, decide_eq_true ⟨hreserved, hhidden⟩⟩
  · intro field hfield
    rw [hnames, List.mem_filter, decide_eq_true_eq] at hfield
    rcases hfield with ⟨-, hreserved, hhidden⟩
    rw [hhonours]
    push Not
    tauto

/-- A profile with a field beneath a hidden one. -/
def hashedProfile : Profile where
  name := "users"
  hiddenFields := ["password"]
  fieldNames := ["name", "email", "password.hash"]

/-- The guide describes a filter on the hash of the password, and a list has no
    condition on it. -/
theorem guided_beneath_hidden :
    "password.hash" ∈ hashedProfile.fieldNames ∧
      "password.hash" ∈ (hashedProfile.handle (Call.guide none) fun _ => .ok []).guidedNames ∧
      ¬ hashedProfile.Honours "password.hash" ∧
      ∃ pipeline,
        (hashedProfile.plan (Call.list "password.hash=x".toList)).pipelines = [pipeline] ∧
        Pipeline.arguments "$match" pipeline = [] := by
  have hparams : Params.parse "password.hash=x".toList = [("password.hash", ["x"])] :=
    Params.parse_literal "password.hash".toList "x".toList (by decide) (by decide)
  refine ⟨by decide, ?_, ?_, _, by rw [plan_call_list, Plan.pipelines], ?_⟩
  · rw [guidedNames_guide]
    decide
  · rw [honours_iff]
    rintro ⟨-, hvisible⟩
    exact absurd hvisible (by decide)
  · rw [listingFor, arguments_match, hparams]
    rfl

end Profile

end DocQuery
