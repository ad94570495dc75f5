import DocQuery.Proofs.Endpoint.Answer
import DocQuery.Proofs.Request.Query

/-!
# Pipelines of Requests for Lists

What the pipeline for a list asks of a store. It matches once, sorts once, and
does neither within the facet. The filters that it matches are exactly those of
the request on visible fields.

The keys that it sorts by are those of the request on visible fields as well,
with one exception: where none of them is left, the list is in the default
order, and this is so even if the field of the default order is hidden.

What a pipeline asks of a store is read off its documents: the stages at the top
and those in the branches of facets, and the arguments of all stages with a
given name. A statement about them does not depend on where in the pipeline a
stage stands, so it would survive a pipeline in another order, and it does not
trust the compiler of listings to have put nothing elsewhere.

## Main definitions

* `Pipeline.stages`: The stages of a pipeline, with those in facets.
* `Pipeline.arguments`: The arguments of the stages with a name.

## Theorems

* `Profile.arguments_match`, `arguments_sort`: What is matched and sorted by.
* `Profile.visibleSort_of_exists`, `visibleSort_of_forall`: The keys that a list
  is sorted by.
* `Profile.pipelines_list`: Hidden fields in the pipeline for a list.
-/

namespace DocQuery

namespace Pipeline

/-- The stage that a value is. -/
def stage? : Value → Option Document
  | .document stage => some stage
  | _ => none

/-- The stages that a value lists. -/
def listed : Value → List Document
  | .array items => items.filterMap stage?
  | _ => []

/-- The stages in the branches of a facet. There are none in other stages. -/
def branches (stage : Document) : List Document :=
  match stage.get? "$facet" with
  | some (.document branches) => branches.flatMap fun branch => listed branch.2
  | _ => []

/-- The stages of a pipeline and those in the branches of its facets. -/
def stages (pipeline : List Document) : List Document :=
  pipeline.flatMap fun stage => stage :: branches stage

/-- The arguments of the stages with a name. -/
def arguments (name : String) (pipeline : List Document) : List Value :=
  (stages pipeline).filterMap fun stage => stage.get? name

theorem listed_array (items : List Document) : listed (.array (items.map .document)) = items := by
  have hsome : stage? ∘ Value.document = some := rfl
  rw [listed, List.filterMap_map, hsome, List.filterMap_some]

theorem arguments_append (name : String) (pipeline more : List Document) :
    arguments name (pipeline ++ more) = arguments name pipeline ++ arguments name more := by
  unfold arguments stages
  rw [List.flatMap_append, List.filterMap_append]

theorem arguments_cons (name : String) (stage : Document) (pipeline : List Document) :
    arguments name (stage :: pipeline) =
      arguments name [stage] ++ arguments name pipeline :=
  arguments_append name [stage] pipeline

/-- A stage that is no facet has its own argument only. -/
theorem arguments_stage (name other : String) (fields : Document) (h : other ≠ "$facet") :
    arguments name [Listing.stage other fields] =
      if other = name then [.document fields] else [] := by
  have hbranches : branches (Listing.stage other fields) = [] := by
    rw [branches, Listing.stage, Document.get?, if_neg h, Document.get?]
  unfold arguments stages
  rw [List.flatMap_cons, List.flatMap_nil, hbranches]
  by_cases hname : other = name
  · simp [Listing.stage, Document.get?, hname]
  · simp [Listing.stage, Document.get?, hname]

end Pipeline

namespace Relation

/-- The stages of a relation join and unwind. -/
theorem get?_of_mem_stages (r : Relation) (name : String) (hlookup : name ≠ "$lookup")
    (hunwind : name ≠ "$unwind") (stage : Document) (h : stage ∈ r.stages) :
    stage.get? name = none := by
  have hjoin : r.joinStage.get? name = none := by
    rw [joinStage, Document.get?, if_neg hlookup.symm, Document.get?]
  have hunwound : r.unwindStage.get? name = none := by
    rw [unwindStage, Document.get?, if_neg hunwind.symm, Document.get?]
  unfold stages at h
  split at h
  · rcases List.mem_cons.mp h with rfl | h
    · exact hjoin
    · rw [List.mem_singleton.mp h]
      exact hunwound
  · rw [List.mem_singleton.mp h]
    exact hjoin

end Relation

namespace Listing

theorem get?_of_mem_pageStages (skip : Nat) (limit : Option Nat) (name : String)
    (hskip : name ≠ "$skip") (hlimit : name ≠ "$limit") (stage : Document)
    (h : stage ∈ pageStages skip limit) : stage.get? name = none := by
  unfold pageStages at h
  rcases limit with _ | limit
  · cases h
  · rcases List.mem_cons.mp h with rfl | h
    · rw [Document.get?, if_neg hskip.symm, Document.get?]
    · rw [List.mem_singleton.mp h, Document.get?, if_neg hlimit.symm, Document.get?]

/-- Nothing else is in a facet than the stages for the documents of the page and
    the number of matches. -/
theorem arguments_facetStage (data : List Document) (name : String) (hfacet : name ≠ "$facet")
    (hcount : name ≠ "$count") (hdata : ∀ stage ∈ data, stage.get? name = none) :
    Pipeline.arguments name [facetStage data] = [] := by
  -- One branch has the stages for the page, and the other one counts.
  have hbranches : Pipeline.branches (facetStage data) =
      data ++ [[("$count", .string totalName)]] := by
    have hlisted := Pipeline.listed_array data
    unfold Pipeline.branches facetStage stage
    rw [Document.get?, if_pos rfl]
    simp only [List.flatMap_cons, List.flatMap_nil, hlisted]
    rfl
  unfold Pipeline.arguments Pipeline.stages
  rw [List.flatMap_cons, List.flatMap_nil, hbranches, List.append_nil, List.filterMap_eq_nil_iff]
  intro stage hstage
  rcases List.mem_cons.mp hstage with rfl | hstage
  · rw [facetStage, Listing.stage, Document.get?, if_neg hfacet.symm, Document.get?]
  · rcases List.mem_append.mp hstage with hstage | hstage
    · exact hdata stage hstage
    · rw [List.mem_singleton.mp hstage, Document.get?, if_neg hcount.symm, Document.get?]

end Listing

namespace Profile

theorem get?_of_mem_dataStages (p : Profile) (r : ListRequest) (name : String)
    (hname : name ∉ ["$skip", "$limit", "$lookup", "$unwind"]) :
    ∀ stage ∈ (p.listing r).dataStages, stage.get? name = none := by
  simp only [List.mem_cons, List.not_mem_nil, or_false, not_or] at hname
  intro stage hstage
  rcases List.mem_append.mp hstage with hstage | hstage
  · exact Listing.get?_of_mem_pageStages _ _ name hname.1 hname.2.1 stage hstage
  · rcases List.mem_flatMap.mp hstage with ⟨relation, -, hstage⟩
    exact relation.get?_of_mem_stages name hname.2.2.1 hname.2.2.2 stage hstage

/-- What matches and sorts in the pipeline for a list comes before the fields and
    the page. -/
theorem arguments_compile (p : Profile) (r : ListRequest) (name : String)
    (hname : name = "$match" ∨ name = "$sort") :
    Pipeline.arguments name (p.listing r).compile =
      Pipeline.arguments name (p.listing r).matchStages ++
        Pipeline.arguments name [Listing.sortStage (SortKey.document (p.visibleSort r.sort))] := by
  have hnames : name ∉ ["$skip", "$limit", "$lookup", "$unwind"] ∧ name ≠ "$facet" ∧
      name ≠ "$count" ∧ "$addFields" ≠ name ∧ "$project" ≠ name := by
    rcases hname with rfl | rfl
    · decide
    · decide
  rcases hnames with ⟨hdata, hfacet, hcount, hadd, hproject⟩
  have hfields : ∀ fields,
      Pipeline.arguments name [Listing.projectStage (fieldsDocument fields)] = [] := by
    intro fields
    unfold Listing.projectStage
    split
    · rw [Pipeline.arguments_stage _ _ _ (by decide), if_neg hadd]
    · rw [Pipeline.arguments_stage _ _ _ (by decide), if_neg hproject]
  have hpage := Listing.arguments_facetStage (p.listing r).dataStages name hfacet hcount
    (p.get?_of_mem_dataStages r name hdata)
  have htotal : Pipeline.arguments name [Listing.totalStage] = [] := by
    unfold Listing.totalStage
    rw [Pipeline.arguments_stage _ _ _ (by decide), if_neg hproject]
  have hbefore : (p.listing r).stagesBefore = [] := rfl
  have hsort : (p.listing r).request.sort = p.visibleSort r.sort := rfl
  -- The stages of the pipeline one by one: only the match and the sort have such
  -- arguments.
  unfold Listing.compile
  rw [hbefore, List.nil_append, Pipeline.arguments_append, Pipeline.arguments_cons,
    Pipeline.arguments_cons _ (Listing.projectStage _),
    Pipeline.arguments_cons _ (Listing.facetStage _), hfields, hpage, htotal, hsort,
    List.nil_append, List.nil_append, List.append_nil]

/-- The pipeline for a list matches once at most: the filters on visible fields
    and the search clause. -/
theorem arguments_match (p : Profile) (r : ListRequest) :
    Pipeline.arguments "$match" (p.listing r).compile =
      match Listing.clauses (p.visible r.filters)
        (Listing.searchClause? r.search p.searchFields) with
      | [] => []
      | clauses => [.document [("$and", .array (clauses.map .document))]] := by
  -- A profile restricts nothing, so the filters are those of the request.
  have hfilters : (p.listing r).filters = p.visible r.filters := rfl
  have hsearch : Listing.searchClause? (p.listing r).request.search (p.listing r).searchFields =
      Listing.searchClause? r.search p.searchFields := rfl
  rw [arguments_compile p r _ (Or.inl rfl), Listing.sortStage,
    Pipeline.arguments_stage _ _ _ (by decide), if_neg (by decide), List.append_nil,
    Listing.matchStages, hfilters, hsearch]
  rw [Listing.matchStage?, ← Listing.clauses]
  rcases Listing.clauses (p.visible r.filters)
    (Listing.searchClause? r.search p.searchFields) with _ | ⟨clause, clauses⟩
  · rfl
  · simp only [Option.toList_some]
    rw [Pipeline.arguments_stage _ _ _ (by decide), if_pos rfl]

/-- The pipeline for a list sorts once, by the visible keys. -/
theorem arguments_sort (p : Profile) (r : ListRequest) :
    Pipeline.arguments "$sort" (p.listing r).compile =
      [.document (SortKey.document (p.visibleSort r.sort))] := by
  have hmatch : Pipeline.arguments "$sort" (p.listing r).matchStages = [] := by
    unfold Listing.matchStages Listing.matchStage?
    split
    · rfl
    · rw [Option.toList_some, Pipeline.arguments_stage _ _ _ (by decide), if_neg (by decide)]
  rw [arguments_compile p r _ (Or.inr rfl), hmatch, Listing.sortStage,
    Pipeline.arguments_stage _ _ _ (by decide), if_pos rfl, List.nil_append]

/-- A list is sorted by the visible keys of the request. -/
theorem visibleSort_of_exists (p : Profile) (keys : List SortKey)
    (h : ∃ key ∈ keys, p.isHidden key.field = false) :
    p.visibleSort keys = keys.filter fun key => !p.isHidden key.field := by
  unfold visibleSort
  split
  · rename_i hnone
    rcases h with ⟨key, hkey, hvisible⟩
    exact absurd ((Bool.not_eq_true' _).mpr hvisible) (List.filter_eq_nil_iff.mp hnone key hkey)
  · rfl

/-- Where all keys are hidden, a list is in the default order. -/
theorem visibleSort_of_forall (p : Profile) (keys : List SortKey)
    (h : ∀ key ∈ keys, p.isHidden key.field = true) : p.visibleSort keys = defaultSort := by
  have hnone : keys.filter (fun key => !p.isHidden key.field) = [] := by
    rw [List.filter_eq_nil_iff]
    intro key hkey
    rw [h key hkey]
    exact Bool.false_ne_true
  rw [visibleSort, hnone]

theorem isHidden_of_mem_keys (p : Profile) (keys : List SortKey) (name : String)
    (h : name ∈ (SortKey.document (keys.filter fun key => !p.isHidden key.field)).keys) :
    p.isHidden name = false := by
  rcases List.mem_map.mp h with ⟨entry, hentry, rfl⟩
  -- The document is built by insertion, which brings in no other names.
  rcases Document.mem_of_mem_overlay _ _ entry hentry with hnil | hentry
  · cases hnil
  · rcases List.mem_map.mp hentry with ⟨key, hkey, rfl⟩
    exact (Bool.not_eq_true' _).mp (List.mem_filter.mp hkey).2

/-- Hidden fields in the pipeline for a list. No condition on one reaches the
    match, whatever the request is. None is among the keys of the order either,
    as long as the request asks for a visible key. Otherwise the list is in the
    default order, hidden or not. -/
theorem pipelines_list (p : Profile) (query : List Char) :
    ∃ (pipeline : List Document) (filters order : Document),
      (p.plan (Call.list query)).pipelines = [pipeline] ∧
      Pipeline.arguments "$match" pipeline =
        (match Listing.clauses filters (Listing.searchClause?
          (ListRequest.ofParams (Params.parse query)).search p.searchFields) with
        | [] => []
        | clauses => [.document [("$and", .array (clauses.map .document))]]) ∧
      Pipeline.arguments "$sort" pipeline = [.document order] ∧
      (∀ entry, entry ∈ filters ↔
        entry ∈ Request.filters (Params.parse query) ∧ p.isHidden entry.1 = false) ∧
      ((∃ key ∈ Request.sort (Params.parse query), p.isHidden key.field = false) →
        order = SortKey.document
          ((Request.sort (Params.parse query)).filter fun key => !p.isHidden key.field) ∧
        ∀ name ∈ order.keys, p.isHidden name = false) ∧
      ((∀ key ∈ Request.sort (Params.parse query), p.isHidden key.field = true) →
        order = [("createdAt", .int32 (-1))]) := by
  refine ⟨(p.listingFor (Params.parse query)).compile,
    p.visible (Request.filters (Params.parse query)),
    SortKey.document (p.visibleSort (Request.sort (Params.parse query))), ?_,
    p.arguments_match _, p.arguments_sort _, ?_, ?_, ?_⟩
  · rw [plan_call_list, Plan.pipelines]
  · intro entry
    rw [visible, List.mem_filter, Bool.not_eq_true']
  · -- With a visible key the order is made of the visible keys and of nothing else.
    intro hvisible
    rw [p.visibleSort_of_exists _ hvisible]
    exact ⟨rfl, p.isHidden_of_mem_keys _⟩
  · intro hhidden
    rw [p.visibleSort_of_forall _ hhidden]
    rfl

/-- A profile that hides the field of the default order. -/
def undatedProfile : Profile where
  name := "users"
  hiddenFields := ["createdAt"]

/-- A list can be sorted by a hidden field. -/
theorem arguments_sort_hidden :
    undatedProfile.isHidden "createdAt" = true ∧
      ∃ pipeline, (undatedProfile.plan (Call.list "sort=createdAt".toList)).pipelines = [pipeline] ∧
        Pipeline.arguments "$sort" pipeline = [.document [("createdAt", .int32 (-1))]] := by
  have hparse : Params.parse "sort=createdAt".toList = [("sort", ["createdAt"])] :=
    Params.parse_literal "sort".toList "createdAt".toList (by decide) (by decide)
  have hsort : undatedProfile.visibleSort
      (ListRequest.ofParams (Params.parse "sort=createdAt".toList)).sort = defaultSort := by
    rw [hparse]
    rfl
  have harguments := undatedProfile.arguments_sort
    (ListRequest.ofParams (Params.parse "sort=createdAt".toList))
  rw [hsort] at harguments
  refine ⟨by decide, _, ?_, harguments⟩
  rw [plan_call_list, Plan.pipelines]

end Profile

end DocQuery
