import DocQuery.Endpoint.Handler
import DocQuery.Proofs.Outcome
import DocQuery.Proofs.Value.Identifier

/-!
# Routes and Outcomes

How every call over every store is settled: by what method and path it is
settled at once, what the store receives otherwise, and which status and which
members the response has.

Where a path leads is told by what is left of it without the slashes at its
end. Nothing is the list, a slash and a single segment is the description of
the parameters or a single document, and everything else has no route.

What a store receives shows when a plan is carried out over a store that keeps
a record.

A store may also stop the program, as one does that cannot sort its documents.
Then there is no response to speak of, and this is kept apart from all failures
that a client is told of.

The statement is in terms of the text of the path and the answers of the store,
so that it can be compared with a table of routes. It is proved in two steps.
Every call has a plan of one of five kinds (`Profile.planned_plan`), and each
kind of plan is carried out as its line of the table says (`resolves_noRoute`
and those after it). A change of one route concerns one case of each.

## Main definitions

* `Plan.runIn`, `recorded`: A plan over a store that does more than answer.
* `IsTrimmed`, `IsSegment`, `IsIdentifier`: The parts of a path.
* `Profile.Leads`, `Planned`: Where a path leads, and the plan for a call.
* `Page.Undecodable`: Answers to a request for a list that are no page.
* `Response.Enveloped`: The members of a body.
* `Reads`, `Resolves`: Calls that read a store, and how a call is settled.

## Theorems

* `Plan.runIn_recorded`: A store receives the pipelines of a plan.
* `Profile.leads_route`, `planned_plan`: Every path has a route and every call a plan.
* `Profile.handle_resolves`: Every call is settled in one way.
-/

namespace DocQuery

namespace Plan

/-- Carry out a plan over a store that does more than answer. -/
def runIn {m : Type → Type} [Monad m] (plan : Plan) (store : List Document → m Answer) :
    m Response :=
  match plan with
  | done r => pure r
  | ask pipeline respond => do
    let answer ← store pipeline
    return respond answer

end Plan

/-- A store that keeps a record of the pipelines it receives. -/
def recorded (store : List Document → Answer) (pipeline : List Document) :
    StateM (List (List Document)) Answer := do
  modify fun received => received ++ [pipeline]
  return store pipeline

/-- Over a store that keeps a record, a plan has its response, and the record
    its pipelines. -/
theorem Plan.runIn_recorded (plan : Plan) (store : List Document → Answer)
    (received : List (List Document)) :
    (plan.runIn (recorded store)).run received =
      (plan.run store, received ++ plan.pipelines) := by
  cases plan with
  | done r =>
      rw [Plan.pipelines, List.append_nil]
      rfl
  | ask pipeline respond => rfl

/-- What is left of a path without the slashes at its end. -/
def IsTrimmed (path rest : List Char) : Prop :=
  (∃ count, path = rest ++ List.replicate count '/') ∧ rest.getLast? ≠ some '/'

/-- A path that is a slash and a single segment. -/
def IsSegment (path segment : List Char) : Prop :=
  path = '/' :: segment ∧ segment ≠ [] ∧ '/' ∉ segment

/-- The text of an identifier: 24 hexadecimal digits. -/
def IsIdentifier (segment : List Char) : Prop :=
  segment.length = 24 ∧ segment.all Text.Hex.isDigit = true

namespace IsSegment

theorem ne_nil {path segment : List Char} (h : IsSegment path segment) : path ≠ [] := by
  rw [h.1]
  exact List.cons_ne_nil _ _

theorem unique {path segment other : List Char} (h : IsSegment path segment)
    (h' : IsSegment path other) : other = segment := by
  rw [h.1] at h'
  exact (List.cons.inj h'.1).2.symm

/-- A path has one segment at most. -/
theorem exists_iff {path segment : List Char} (h : IsSegment path segment)
    {P : List Char → Prop} : (∃ other, IsSegment path other ∧ P other) ↔ P segment := by
  constructor
  · rintro ⟨other, hother, hP⟩
    rwa [h.unique hother] at hP
  · exact fun hP => ⟨segment, h, hP⟩

end IsSegment

/-- An answer to a request for a list whose first document has an array for the
    page with an element that is not a document, or cannot be decoded to one. -/
def Page.Undecodable : List Document → Prop
  | [] => False
  | d :: _ => ∃ items, d.get? Listing.dataName = some (.array items) ∧
      ∃ item ∈ items, Page.decodeItem? item = none

/-- What is no page is an answer with an element that cannot be decoded. -/
theorem Page.ofAnswer?_eq_none_iff (docs : List Document) :
    Page.ofAnswer? docs = none ↔ Page.Undecodable docs := by
  rcases docs with _ | ⟨d, docs⟩
  · exact iff_of_false nofun id
  · rw [ofAnswer?, ofDocument?, Undecodable]
    split
    · rename_i items hitems
      rw [hitems, Option.map_eq_none_iff, mapM_eq_none_iff]
      constructor
      · intro h
        exact ⟨items, rfl, h⟩
      · rintro ⟨others, heq, h⟩
        cases heq
        exact h
    · rename_i hother
      refine iff_of_false (Option.some_ne_none _) ?_
      rintro ⟨items, hitems, -⟩
      exact hother items hitems

namespace Profile

/-- The slashes at the end of a path are taken away and nothing else. -/
theorem isTrimmed_trimSlashes (path : List Char) : IsTrimmed path (trimSlashes path) := by
  unfold IsTrimmed trimSlashes
  refine ⟨⟨(path.reverse.takeWhile (· == '/')).length, ?_⟩, ?_⟩
  · -- What is taken from the end is slashes only, and so their number tells it.
    have hslashes : path.reverse.takeWhile (· == '/') =
        List.replicate (path.reverse.takeWhile (· == '/')).length '/' :=
      List.eq_replicate_of_mem fun c hc => eq_of_beq (List.all_eq_true.mp List.all_takeWhile c hc)
    have hsplit := congrArg List.reverse
      (List.takeWhile_append_dropWhile (p := (· == '/')) (l := path.reverse))
    rw [List.reverse_append, List.reverse_reverse, hslashes, List.reverse_replicate] at hsplit
    exact hsplit.symm
  · rw [List.getLast?_reverse]
    intro h
    have hnot := List.head?_dropWhile_not (· == '/') path.reverse
    rw [h] at hnot
    cases hnot

/-- Where a path without slashes at its end leads. -/
inductive Leads : List Char → Route → Prop
  | list : Leads [] .list
  | guide : Leads ('/' :: "_params".toList) .guide
  | single {path : List Char} (segment : List Char) (h : IsSegment path segment)
      (hguide : segment ≠ "_params".toList) : Leads path (.single segment)
  | none {path : List Char} (hne : path ≠ []) (h : ∀ segment, ¬ IsSegment path segment) :
      Leads path .none

/-- Every path leads where it should. -/
theorem leads_route (path : List Char) : Leads (trimSlashes path) (route path) := by
  have hlast := (isTrimmed_trimSlashes path).2
  unfold route
  generalize trimSlashes path = rest at hlast ⊢
  split
  · exact .list
  · rename_i segment
    have hne : segment ≠ [] := by
      rintro rfl
      exact hlast rfl
    split
    · rename_i hguide
      rw [hguide]
      exact .guide
    · rename_i hguide
      split
      · rename_i hslash
        refine .none (List.cons_ne_nil _ _) fun other hother => ?_
        rw [(List.cons.inj hother.1).2] at hslash
        exact hother.2.2 (List.contains_iff_mem.mp hslash)
      · rename_i hslash
        exact .single segment
          ⟨rfl, hne, fun hmem => hslash (List.contains_iff_mem.mpr hmem)⟩ hguide
  · rename_i hnil hslash
    exact .none hnil fun segment hsegment => hslash segment hsegment.1

/-- The plan for a call, by its method and what is left of its path without the
    slashes at its end. -/
inductive Planned (p : Profile) (call : Call) : List Char → Plan → Prop
  | noRoute {path : List Char} (h : call.method ≠ "GET".toList ∨
      path ≠ [] ∧ ∀ segment, ¬ IsSegment path segment) :
      Planned p call path (.done (.failure .noRoute))
  | guide (hmethod : call.method = "GET".toList) :
      Planned p call ('/' :: "_params".toList) (.done p.guideResponse)
  | invalidId {path : List Char} (segment : List Char) (hmethod : call.method = "GET".toList)
      (h : IsSegment path segment) (hguide : segment ≠ "_params".toList)
      (hid : ¬ IsIdentifier segment) :
      Planned p call path (.done (.failure (.invalidId (String.ofList segment))))
  | list (hmethod : call.method = "GET".toList) (pipeline : List Document) (r : ListRequest) :
      Planned p call [] (.ask pipeline (p.listResponse r))
  | single {path : List Char} (segment : List Char) (hmethod : call.method = "GET".toList)
      (h : IsSegment path segment) (hid : IsIdentifier segment) (pipeline : List Document) :
      Planned p call path (.ask pipeline p.singleResponse)

/-- Every call has one of the five plans. -/
theorem planned_plan (p : Profile) (call : Call) :
    p.Planned call (trimSlashes call.target.path) (p.plan call) := by
  have hleads := leads_route call.target.path
  unfold plan
  by_cases hmethod : call.method = "GET".toList
  · rw [if_neg (not_not_intro hmethod)]
    generalize route call.target.path = target, trimSlashes call.target.path = path
      at hleads ⊢
    cases hleads with
    | list => exact .list hmethod _ _
    | guide => exact .guide hmethod
    | single segment h hguide =>
        simp only
        rcases hread : ObjectId.read? segment with _ | id
        · exact .invalidId segment hmethod h hguide ((ObjectId.read?_eq_none_iff segment).mp hread)
        · exact .single segment hmethod h
            (ObjectId.length_and_isDigit_of_read?_eq_some segment id hread) _
    | none hne h => exact .noRoute (Or.inr ⟨hne, h⟩)
  · rw [if_pos hmethod]
    exact .noRoute (Or.inl hmethod)

/-- What a store says to a request for a list is no page if the store fails or
    the page cannot be decoded. -/
def Fails (answer : Answer) : Prop :=
  (∃ message, answer = .error (.failed message)) ∨
    ∃ docs, answer = .ok docs ∧ Page.Undecodable docs

/-- A list has a page with its numbers, or the response is a failure of the
    server, or there is none since the program has stopped. -/
theorem listResponse_cases (p : Profile) (r : ListRequest) (answer : Answer) :
    answer = .error .stopped ∧ p.listResponse r answer = .missing ∨
      answer ≠ .error .stopped ∧
        ((¬ Fails answer ∧
            ∃ data numbers, p.listResponse r answer = .ok p.retrieved data (some numbers)) ∨
          (Fails answer ∧
            ∃ e : EndpointError, p.listResponse r answer = .failure e ∧ e.status = 500)) := by
  unfold listResponse Listing.page
  rcases answer with (message | _) | docs
  · exact Or.inr ⟨nofun, Or.inr ⟨Or.inl ⟨message, rfl⟩, .store message, rfl, rfl⟩⟩
  · exact Or.inl ⟨rfl, rfl⟩
  · refine Or.inr ⟨nofun, ?_⟩
    simp only
    rcases hpage : Page.ofAnswer? docs with _ | page
    · have hundecodable := (Page.ofAnswer?_eq_none_iff docs).mp hpage
      exact Or.inr ⟨Or.inr ⟨docs, rfl, hundecodable⟩, .decode, rfl, rfl⟩
    · refine Or.inl ⟨?_, _, _, rfl⟩
      rintro (⟨message, hmessage⟩ | ⟨others, heq, hnone⟩)
      · cases hmessage
      · cases heq
        rw [(Page.ofAnswer?_eq_none_iff docs).mpr hnone] at hpage
        cases hpage

end Profile

namespace Response

/-- The body is an object of which each member is there once: whether the
    request succeeded, its data if it did, and the numbers of a page if there is
    one. -/
def Enveloped (r : Response) (paged : Prop) : Prop :=
  ∃ fields, r.body = .object fields ∧ (fields.map Prod.fst).Nodup ∧
    Json.field? fields "success" = some (.bool (r.status == 200)) ∧
    ((Json.field? fields "data").isSome = true ↔ r.status = 200) ∧
    ((Json.field? fields "meta").isSome = true ↔ paged)

theorem Enveloped.congr {r : Response} {paged paged' : Prop} (h : r.Enveloped paged)
    (hpaged : paged ↔ paged') : r.Enveloped paged' := by
  rcases h with ⟨fields, hbody, hnames, hsuccess, hdata, hmeta⟩
  exact ⟨fields, hbody, hnames, hsuccess, hdata, hmeta.trans hpaged⟩

theorem enveloped_ok (message : String) (data : Json) (numbers : Option PageNumbers) :
    (ok message data numbers).Enveloped (numbers.isSome = true) := by
  have hnames : ["success", "message", "data"].Nodup := by decide
  have hall : ["success", "message", "data", "meta"].Nodup := by decide
  refine ⟨_, rfl, ?_, rfl, iff_of_true rfl rfl, ?_⟩
  · cases numbers with
    | none => exact hnames
    | some numbers => exact hall
  · cases numbers with
    | none => exact Iff.rfl
    | some numbers => exact Iff.rfl

theorem status_failure_ne (e : EndpointError) : (failure e).status ≠ 200 := by
  cases e with
  | _ => exact Nat.ne_of_beq_eq_false rfl

theorem failure_ne_missing (e : EndpointError) : failure e ≠ missing := by
  intro h
  cases congrArg body h

theorem ok_ne_missing (message : String) (data : Json) (numbers : Option PageNumbers) :
    ok message data numbers ≠ missing := by
  intro h
  cases congrArg body h

theorem enveloped_failure (e : EndpointError) : (failure e).Enveloped False := by
  have hnames : ["success", "message"].Nodup := by decide
  refine ⟨_, rfl, hnames, ?_, iff_of_false nofun (status_failure_ne e), iff_of_false nofun id⟩
  rw [beq_eq_false_iff_ne.mpr (status_failure_ne e)]
  rfl

end Response

/-- A call that reads the list or a single document. -/
def Reads (call : Call) (path : List Char) : Prop :=
  call.method = "GET".toList ∧
    (path = [] ∨ ∃ segment, IsSegment path segment ∧ IsIdentifier segment)

/-- How a call is settled, by its method, by what is left of its path without the
    slashes at its end, and by what the store says to what it receives. -/
structure Resolves (call : Call) (path : List Char) (store : List Document → Answer)
    (received : List (List Document)) (response : Response) : Prop where
  /-- The store receives one pipeline if the call reads, and none otherwise. -/
  traffic : (Reads call path ∧ ∃ pipeline, received = [pipeline]) ∨
    (¬ Reads call path ∧ received = [])
  /-- There is no route, or no document with the identifier. -/
  notFound : response.status = 404 ↔ call.method ≠ "GET".toList ∨
    (path ≠ [] ∧ ∀ segment, ¬ IsSegment path segment) ∨
    ∃ segment, IsSegment path segment ∧ IsIdentifier segment ∧
      ∃ pipeline ∈ received, store pipeline = .ok []
  /-- A single segment is no identifier, and not the name of the description. -/
  badRequest : response.status = 400 ↔ call.method = "GET".toList ∧
    ∃ segment, IsSegment path segment ∧ segment ≠ "_params".toList ∧ ¬ IsIdentifier segment
  /-- The store has failed, or its answer to the request for a list is no page. -/
  failed : response.status = 500 ↔ ∃ pipeline ∈ received,
    (∃ message, store pipeline = .error (.failed message)) ∨
      path = [] ∧ ∃ docs, store pipeline = .ok docs ∧ Page.Undecodable docs
  /-- There is no response if the program has stopped while the store was at
      work. -/
  missing : response = .missing ↔ ∃ pipeline ∈ received, store pipeline = .error .stopped
  /-- Otherwise the request succeeds. -/
  succeeded : response.status = 200 ↔
    response.status ≠ 404 ∧ response.status ≠ 400 ∧ response.status ≠ 500 ∧ response ≠ .missing
  /-- There are data if the request succeeds, and numbers of a page if it is for
      the list. -/
  body : response ≠ .missing → response.Enveloped (response.status = 200 ∧ path = [])

theorem Reads.iff_of_isSegment {call : Call} {path segment : List Char}
    (hmethod : call.method = "GET".toList) (h : IsSegment path segment) :
    Reads call path ↔ IsIdentifier segment := by
  rw [Reads, h.exists_iff, or_iff_right h.ne_nil]
  exact and_iff_right hmethod

namespace IsSegment

/-- A single segment has a route, so nothing is missing unless it is a document. -/
theorem notFound_iff {call : Call} {path segment : List Char} {P : Prop}
    (hmethod : call.method = "GET".toList) (h : IsSegment path segment) :
    (call.method ≠ "GET".toList ∨ (path ≠ [] ∧ ∀ other, ¬ IsSegment path other) ∨
      ∃ other, IsSegment path other ∧ IsIdentifier other ∧ P) ↔ IsIdentifier segment ∧ P := by
  have hroute : ¬ (path ≠ [] ∧ ∀ other, ¬ IsSegment path other) :=
    fun hnone => hnone.2 segment h
  rw [or_iff_right (not_not_intro hmethod), or_iff_right hroute, h.exists_iff]

theorem badRequest_iff {call : Call} {path segment : List Char}
    (hmethod : call.method = "GET".toList) (h : IsSegment path segment) :
    (call.method = "GET".toList ∧ ∃ other, IsSegment path other ∧
      other ≠ "_params".toList ∧ ¬ IsIdentifier other) ↔
        segment ≠ "_params".toList ∧ ¬ IsIdentifier segment := by
  rw [h.exists_iff]
  exact and_iff_right hmethod

end IsSegment

namespace Profile

section Plans

variable {p : Profile} {call : Call} {path : List Char} (store : List Document → Answer)

theorem resolves_noRoute
    (h : call.method ≠ "GET".toList ∨ path ≠ [] ∧ ∀ segment, ¬ IsSegment path segment) :
    Resolves call path store [] (.failure .noRoute) where
  traffic := by
    refine Or.inr ⟨?_, rfl⟩
    rintro ⟨hmethod, hnil | ⟨segment, hsegment, -⟩⟩
    · exact h.elim (absurd hmethod) fun h => h.1 hnil
    · exact h.elim (absurd hmethod) fun h => h.2 segment hsegment
  notFound := iff_of_true rfl (h.imp_right Or.inl)
  badRequest := by
    refine iff_of_false nofun ?_
    rintro ⟨hmethod, segment, hsegment, -⟩
    exact h.elim (absurd hmethod) fun h => h.2 segment hsegment
  failed := iff_of_false nofun nofun
  missing := iff_of_false (Response.failure_ne_missing _) nofun
  succeeded := iff_of_false nofun fun h => h.1 rfl
  body _ := (Response.enveloped_failure _).congr (iff_of_false id nofun)

theorem resolves_guide (hmethod : call.method = "GET".toList) :
    Resolves call ('/' :: "_params".toList) store [] p.guideResponse := by
  have hsegment : IsSegment ('/' :: "_params".toList) "_params".toList := by
    unfold IsSegment
    decide
  have hid : ¬ IsIdentifier "_params".toList := by
    unfold IsIdentifier
    decide
  exact {
    traffic := Or.inr ⟨mt (Reads.iff_of_isSegment hmethod hsegment).mp hid, rfl⟩
    notFound := iff_of_false nofun fun h => hid ((hsegment.notFound_iff hmethod).mp h).1
    badRequest := iff_of_false nofun fun h => ((hsegment.badRequest_iff hmethod).mp h).1 rfl
    failed := iff_of_false nofun nofun
    missing := iff_of_false (Response.ok_ne_missing _ _ _) nofun
    succeeded := iff_of_true rfl ⟨nofun, nofun, nofun, Response.ok_ne_missing _ _ _⟩
    body := fun _ => (Response.enveloped_ok _ _ none).congr (iff_of_false nofun nofun) }

theorem resolves_invalidId {segment : List Char} (hmethod : call.method = "GET".toList)
    (h : IsSegment path segment) (hguide : segment ≠ "_params".toList)
    (hid : ¬ IsIdentifier segment) :
    Resolves call path store [] (.failure (.invalidId (String.ofList segment))) where
  traffic := Or.inr ⟨mt (Reads.iff_of_isSegment hmethod h).mp hid, rfl⟩
  notFound := iff_of_false nofun fun hmissing => hid ((h.notFound_iff hmethod).mp hmissing).1
  badRequest := iff_of_true rfl ((h.badRequest_iff hmethod).mpr ⟨hguide, hid⟩)
  failed := iff_of_false nofun nofun
  missing := iff_of_false (Response.failure_ne_missing _) nofun
  succeeded := iff_of_false nofun fun h => h.2.1 rfl
  body _ := (Response.enveloped_failure _).congr (iff_of_false id nofun)

/-- A list has a page with its numbers unless the store fails, says what is no
    page, or stops the program. -/
theorem resolves_list (hmethod : call.method = "GET".toList) (pipeline : List Document)
    (r : ListRequest) :
    Resolves call [] store [pipeline] (p.listResponse r (store pipeline)) := by
  have hsegment : ∀ segment, ¬ IsSegment [] segment := fun segment h => h.ne_nil rfl
  have hstopped : (∃ sent ∈ [pipeline], store sent = .error .stopped) ↔
      store pipeline = .error .stopped := by
    simp only [List.mem_singleton, exists_eq_left]
  have hfailed : (∃ sent ∈ [pipeline], (∃ message, store sent = .error (.failed message)) ∨
      ([] : List Char) = [] ∧ ∃ docs, store sent = .ok docs ∧ Page.Undecodable docs) ↔
        Fails (store pipeline) := by
    simp [Fails]
  have hmissing : ¬ (call.method ≠ "GET".toList ∨
      (([] : List Char) ≠ [] ∧ ∀ segment, ¬ IsSegment [] segment) ∨
      ∃ segment, IsSegment [] segment ∧ IsIdentifier segment ∧
        ∃ sent ∈ [pipeline], store sent = .ok []) := by
    rintro (hother | ⟨hne, -⟩ | ⟨segment, h, -⟩)
    · exact hother hmethod
    · exact hne rfl
    · exact hsegment segment h
  have hbad : ¬ (call.method = "GET".toList ∧ ∃ segment, IsSegment [] segment ∧
      segment ≠ "_params".toList ∧ ¬ IsIdentifier segment) :=
    fun h => h.2.elim fun segment h => hsegment segment h.1
  -- The store has stopped, or has given a page, or has failed.
  rcases p.listResponse_cases r (store pipeline) with
    ⟨hanswer, heq⟩ | ⟨hanswer, ⟨hok, data, numbers, heq⟩ | ⟨hfails, e, heq, he⟩⟩
  · have hok : ¬ Fails (store pipeline) := by
      rw [hanswer]
      rintro (⟨message, hmessage⟩ | ⟨docs, hdocs, -⟩)
      · cases hmessage
      · cases hdocs
    rw [heq]
    exact {
      traffic := Or.inl ⟨⟨hmethod, Or.inl rfl⟩, pipeline, rfl⟩
      notFound := iff_of_false nofun hmissing
      badRequest := iff_of_false nofun hbad
      failed := iff_of_false nofun (mt hfailed.mp hok)
      missing := iff_of_true rfl (hstopped.mpr hanswer)
      succeeded := iff_of_false nofun fun h => h.2.2.2 rfl
      body := fun h => absurd rfl h }
  · rw [heq]
    exact {
      traffic := Or.inl ⟨⟨hmethod, Or.inl rfl⟩, pipeline, rfl⟩
      notFound := iff_of_false nofun hmissing
      badRequest := iff_of_false nofun hbad
      failed := iff_of_false nofun (mt hfailed.mp hok)
      missing := iff_of_false (Response.ok_ne_missing _ _ _) (mt hstopped.mp hanswer)
      succeeded := iff_of_true rfl ⟨nofun, nofun, nofun, Response.ok_ne_missing _ _ _⟩
      body := fun _ => (Response.enveloped_ok _ _ _).congr (iff_of_true rfl ⟨rfl, rfl⟩) }
  · have hstatus : (Response.failure e).status = 500 := he
    rw [heq]
    exact {
      traffic := Or.inl ⟨⟨hmethod, Or.inl rfl⟩, pipeline, rfl⟩
      notFound := iff_of_false (by omega) hmissing
      badRequest := iff_of_false (by omega) hbad
      failed := iff_of_true hstatus (hfailed.mpr hfails)
      missing := iff_of_false (Response.failure_ne_missing _) (mt hstopped.mp hanswer)
      succeeded := by omega
      body := fun _ => (Response.enveloped_failure _).congr (iff_of_false id (by omega)) }

/-- A single document is the first one that the store finds. -/
theorem resolves_single {segment : List Char} (hmethod : call.method = "GET".toList)
    (h : IsSegment path segment) (hid : IsIdentifier segment) (pipeline : List Document) :
    Resolves call path store [pipeline] (p.singleResponse (store pipeline)) := by
  have hmissing : (call.method ≠ "GET".toList ∨
      (path ≠ [] ∧ ∀ segment, ¬ IsSegment path segment) ∨
      ∃ segment, IsSegment path segment ∧ IsIdentifier segment ∧
        ∃ sent ∈ [pipeline], store sent = .ok []) ↔ store pipeline = .ok [] := by
    rw [h.notFound_iff hmethod, and_iff_right hid]
    simp only [List.mem_singleton, exists_eq_left]
  have hstopped : (∃ sent ∈ [pipeline], store sent = .error .stopped) ↔
      store pipeline = .error .stopped := by
    simp only [List.mem_singleton, exists_eq_left]
  have hfailed : (∃ sent ∈ [pipeline], (∃ message, store sent = .error (.failed message)) ∨
      path = [] ∧ ∃ docs, store sent = .ok docs ∧ Page.Undecodable docs) ↔
        ∃ message, store pipeline = .error (.failed message) := by
    simp only [List.mem_singleton, exists_eq_left]
    exact or_iff_left fun hnil => h.ne_nil hnil.1
  have hbad : ¬ (call.method = "GET".toList ∧ ∃ segment, IsSegment path segment ∧
      segment ≠ "_params".toList ∧ ¬ IsIdentifier segment) :=
    fun hbad => ((h.badRequest_iff hmethod).mp hbad).2 hid
  have htraffic : Reads call path ∧ ∃ sent, [pipeline] = [sent] :=
    ⟨(Reads.iff_of_isSegment hmethod h).mpr hid, pipeline, rfl⟩
  -- It has failed, stopped, found nothing, or found a document.
  rcases hanswer : store pipeline with (message | _) | (_ | ⟨d, docs⟩)
  · exact {
      traffic := Or.inl htraffic
      notFound := iff_of_false nofun (by rw [hmissing, hanswer]; exact nofun)
      badRequest := iff_of_false nofun hbad
      failed := iff_of_true rfl (hfailed.mpr ⟨message, hanswer⟩)
      missing := iff_of_false (Response.failure_ne_missing _)
        (by rw [hstopped, hanswer]; exact nofun)
      succeeded := iff_of_false nofun fun h => h.2.2.1 rfl
      body := fun _ => (Response.enveloped_failure _).congr (iff_of_false id nofun) }
  · exact {
      traffic := Or.inl htraffic
      notFound := iff_of_false nofun (by rw [hmissing, hanswer]; exact nofun)
      badRequest := iff_of_false nofun hbad
      failed := iff_of_false nofun (by rw [hfailed, hanswer]; exact nofun)
      missing := iff_of_true rfl (hstopped.mpr hanswer)
      succeeded := iff_of_false nofun fun h => h.2.2.2 rfl
      body := fun h => absurd rfl h }
  · exact {
      traffic := Or.inl htraffic
      notFound := iff_of_true rfl (hmissing.mpr hanswer)
      badRequest := iff_of_false nofun hbad
      failed := iff_of_false nofun (by rw [hfailed, hanswer]; exact nofun)
      missing := iff_of_false (Response.failure_ne_missing _)
        (by rw [hstopped, hanswer]; exact nofun)
      succeeded := iff_of_false nofun fun h => h.1 rfl
      body := fun _ => (Response.enveloped_failure _).congr (iff_of_false id nofun) }
  · exact {
      traffic := Or.inl htraffic
      notFound := iff_of_false nofun (by rw [hmissing, hanswer]; exact nofun)
      badRequest := iff_of_false nofun hbad
      failed := iff_of_false nofun (by rw [hfailed, hanswer]; exact nofun)
      missing := iff_of_false (Response.ok_ne_missing _ _ _)
        (by rw [hstopped, hanswer]; exact nofun)
      succeeded := iff_of_true rfl ⟨nofun, nofun, nofun, Response.ok_ne_missing _ _ _⟩
      body := fun _ => (Response.enveloped_ok _ _ none).congr
        (iff_of_false nofun fun hnil => h.ne_nil hnil.2) }

end Plans

variable {p : Profile} {call : Call} {path : List Char} {plan : Plan}

/-- Each plan is carried out as its kind says. -/
theorem resolves_of_planned (h : p.Planned call path plan) (store : List Document → Answer) :
    Resolves call path store plan.pipelines (plan.run store) := by
  cases h with
  | noRoute h => exact resolves_noRoute store h
  | guide hmethod => exact resolves_guide store hmethod
  | invalidId segment hmethod h hguide hid => exact resolves_invalidId store hmethod h hguide hid
  | list hmethod pipeline r => exact resolves_list store hmethod pipeline r
  | single segment hmethod h hid pipeline => exact resolves_single store hmethod h hid pipeline

/-- Every call over every store is settled in one way, by its method, by its path
    without the slashes at its end, and by what the store says to the one
    pipeline it may receive. -/
theorem handle_resolves (p : Profile) (call : Call) (store : List Document → Answer) :
    ∃ (path : List Char) (received : List (List Document)),
      IsTrimmed call.target.path path ∧
      ((p.plan call).runIn (recorded store)).run [] = (p.handle call store, received) ∧
      Resolves call path store received (p.handle call store) := by
  refine ⟨trimSlashes call.target.path, (p.plan call).pipelines,
    isTrimmed_trimSlashes call.target.path, ?_, resolves_of_planned (p.planned_plan call) store⟩
  rw [Plan.runIn_recorded, List.nil_append, handle]

end Profile

end DocQuery
