import FacetSearch.Proofs.Facet.Collecting
import FacetSearch.Proofs.Facet.Planning
import FacetSearch.Proofs.Record.Decoding
import FacetSearch.Search.Service

namespace FacetSearch

/-!
# Running the planned request

A search prepares the request as a preview does, and asks the engine once for
the plan that comes out.  From there on only the engine can fail, or a facet
that is not reported as it was planned.
-/

namespace SearchRequest

theorem bind_eq_ok_iff
    {α β ε : Type}
    {outcome : Except ε α}
    {next : α → Except ε β}
    {result : β} :
    outcome >>= next = .ok result ↔ ∃ value, outcome = .ok value ∧ next value = .ok result := by
  cases outcome <;> simp [bind, Except.bind]

/-- A request is prepared when each of its parts is in order. -/
theorem prepare_eq_ok_iff
    {settings : Settings}
    {registry : Registry}
    {request : SearchRequest}
    {prepared : Prepared} :
    request.prepare settings registry = .ok prepared ↔
      ∃ sqon filter facets page fields,
        request.filter settings.compiler.maxDepth.toNat = .ok sqon ∧
          Sqon.compileOptional registry settings.compiler.maxDepth.toNat sqon = .ok filter ∧
          FacetSpec.planAll registry settings.facets settings.compiler.maxDepth.toNat sqon
              request.facets = .ok facets ∧
          registry.page settings.pages request.sort request.page = .ok page ∧
          Record.resolveFields registry request.fields = .ok fields ∧
          { plan := {
              index := registry.index, filter, facets, page,
              sourceFields := Record.sourceFields fields }
            fields } = prepared := by
  simp only [prepare, bind_eq_ok_iff, Except.ok.injEq]
  constructor
  · intro steps
    obtain ⟨sqon, reads, filter, compiles, facets, plans, page, pages, fields, resolves, rfl⟩ :=
      steps
    exact ⟨sqon, filter, facets, page, fields, reads, compiles, plans, pages, resolves, rfl⟩
  · intro parts
    obtain ⟨sqon, filter, facets, page, fields, reads, compiles, plans, pages, resolves, rfl⟩ :=
      parts
    exact ⟨sqon, reads, filter, compiles, facets, plans, page, pages, fields, resolves, rfl⟩

end SearchRequest

/-- What is prepared for a request asks for its facets and reads its fields. -/
structure Prepared.IsFor
    (prepared : Prepared)
    (request : SearchRequest) :
    Prop where
  facets : prepared.plan.facets.map PlannedFacet.facet = request.facets.map FacetSpec.field
  fields : prepared.fields.map Field.name = request.fields

/--
A response to a request shows an answer: its total, a record of every hit in
their order, and a result for each facet of the request.
-/
structure SearchResponse.Shows
    (response : SearchResponse)
    (request : SearchRequest)
    (answer : Answer) :
    Prop where
  total : response.total = answer.total
  records : List.Forall₂ (Record.IsOf request.fields) answer.hits response.records
  facets : Entries.HasKeys response.facets (request.facets.map FacetSpec.field)

/--
What a search for a planned request results in, from what the engine answers
in time.  An answer is rejected for the first facet that is not reported as it
was planned, and for nothing else.
-/
inductive SearchRequest.Concludes
    (request : SearchRequest)
    (plan : Plan) :
    Except Error Answer → Except Error SearchResponse → Prop where
  | failed {failure : Error} : Concludes request plan (.error failure) (.error failure)
  | misreported {answer : Answer} {fault : AnswerFault} :
      IsFirstMismatch answer.facets plan.facets fault →
      Concludes request plan (.ok answer)
        (.error (.engineRejected plan.index none (.mismatch fault) none))
  | shown {answer : Answer} {response : SearchResponse} :
      (∀ planned ∈ plan.facets, planned.FitsReport answer.facets) →
      response.Shows request answer →
      Concludes request plan (.ok answer) (.ok response)

namespace Prepared

variable
  {prepared : Prepared}
  {request : SearchRequest}
  {timeout : UInt64}
  {sortByKey : Bool}
  {answer : Answer}

/-- A response shows the answer that it was made from. -/
theorem shows_of_respond
    (isFor : prepared.IsFor request)
    {response : SearchResponse}
    (responds : prepared.respond sortByKey answer = .ok response) :
    (∀ planned ∈ prepared.plan.facets, planned.FitsReport answer.facets) ∧
      response.Shows request answer := by
  obtain ⟨facets, decodes, rfl⟩ := Sqon.Compiler.map_eq_ok_iff.mp responds
  have collected := FacetResults.ofAnswer_eq_ok_iff.mp decodes
  refine ⟨(FacetResults.entries_of_collect collected).1, rfl, ?_, ?_⟩
  · rw [List.forall₂_map_right_iff, List.forall₂_same, ← isFor.fields]
    intro hit _
    exact Record.isOf_ofHit
  · rw [← isFor.facets]
    exact FacetResults.hasKeys_of_collect collected

/-- Whatever the engine answers in time, the request concludes from it. -/
theorem concludes
    (isFor : prepared.IsFor request)
    {attempt : Attempt}
    (inTime : attempt.inTime timeout = true) :
    request.Concludes prepared.plan attempt.answer
      (prepared.conclude timeout sortByKey attempt) := by
  rw [conclude, if_pos inTime]
  cases attempt.answer with
  | error failure =>
      exact .failed
  | ok answer =>
      change request.Concludes prepared.plan (.ok answer) (prepared.respond sortByKey answer)
      cases outcome : prepared.respond sortByKey answer with
      | error failure =>
          have rejected := Sqon.Compiler.map_eq_error_iff.mp outcome
          obtain ⟨fault, isFirst, rfl⟩ := FacetResults.ofAnswer_eq_error_iff.mp rejected
          exact .misreported isFirst
      | ok response =>
          obtain ⟨fit, shows⟩ := shows_of_respond isFor outcome
          exact .shown fit shows

end Prepared

namespace SearchService

variable
  {service : SearchService}
  {engine : Engine}
  {request : SearchRequest}
  {prepared : Prepared}

theorem isFor_of_prepare
    (prepares : service.prepare request = .ok prepared) :
    prepared.IsFor request := by
  rw [prepare] at prepares
  split at prepares
  · cases prepares
  case h_2 registry _ =>
      obtain ⟨sqon, filter, facets, page, fields, -, -, plans, -, resolves, rfl⟩ :=
        SearchRequest.prepare_eq_ok_iff.mp prepares
      exact ⟨FacetSpec.names_of_planAfter plans, Record.names_of_resolveFields resolves⟩

theorem search_of_prepare_error
    {failure : Error}
    (fails : service.prepare request = .error failure) :
    service.search engine request = { result := .error failure, executed := [] } := by
  rw [search, searchThrough, fails]
  rfl

theorem search_of_prepare_ok
    (prepares : service.prepare request = .ok prepared) :
    service.search engine request =
      { result :=
          prepared.conclude (service.timeout request) request.sortBucketsByKey
            (engine prepared.plan)
        executed := [prepared.plan] } := by
  rw [search, searchThrough, prepares]
  rfl

/--
A search that cannot be planned fails as its plan does, without asking the
engine.  Every other search asks the engine once, for the plan that a preview
shows, and concludes from an answer that arrives in time.
-/
theorem search_runs_planned_request
    (service : SearchService)
    (engine : Engine)
    (request : SearchRequest) :
    (∀ failure,
      service.plan request = .error failure →
        service.search engine request = { result := .error failure, executed := [] }) ∧
      ∀ plan,
        service.plan request = .ok plan →
          (service.search engine request).executed = [plan] ∧
            ((engine plan).inTime (service.timeout request) = true →
              request.Concludes plan (engine plan).answer
                (service.search engine request).result) := by
  constructor
  · intro failure fails
    exact search_of_prepare_error (Sqon.Compiler.map_eq_error_iff.mp fails)
  · intro plan plans
    obtain ⟨prepared, prepares, rfl⟩ := Sqon.Compiler.map_eq_ok_iff.mp plans
    rw [search_of_prepare_ok prepares]
    refine ⟨rfl, ?_⟩
    intro inTime
    exact Prepared.concludes (isFor_of_prepare prepares) inTime

/-- A service with no document type but cases. -/
def ofCases : SearchService where
  store := Store.empty.enter caseType.key caseRegistry
  settings := .standard none

/-- The status of every case, and the genders of donors. -/
def statusAndGenders : SearchRequest where
  __ := SearchRequest.everything "demo" "cases"
  fields := ["status"]
  facets := [.terms "donors__gender"]

/-- The plan on the status of every case and the genders of donors. -/
def statusAndGendersPlan : Plan where
  index := "cases"
  filter := .matchAll
  facets := [
    { facet := "donors__gender", field := "donors.gender", filter := .matchAll,
      nested := ["donors"], kind := .terms 100 }]
  page := { sort := [{ field := "_id", direction := .asc, nested := [] }], start := 0, size := 20 }
  sourceFields := ["status"]

/-- Two cases, of which one has women among its donors. -/
def twoCases : Answer where
  total := 2
  hits := [
    { id := "a", source := .object [("status", .string "open")] },
    { id := "b", source := .object [] }]
  facets := [("donors__gender", .buckets [{ key := "female", count := 3, rootCount := some 1 }])]

/-- What is shown of the two cases. -/
def twoCasesShown : SearchResponse where
  total := 2
  records := [
    { id := "a", fields := [("status", .string "open")] },
    { id := "b", fields := [("status", .null)] }]
  facets := [("donors__gender", .buckets [{ key := "female", count := 1 }])]

/-- An engine that always finds the two cases. -/
def findingTwoCases : Engine := fun _ =>
  { delay := 5, answer := .ok twoCases }

theorem prepare_statusAndGenders :
    ofCases.prepare statusAndGenders =
      .ok {
        plan := statusAndGendersPlan
        fields := [caseType.fields[0].resolve caseType.fields] } := by
  have plans :
      FacetSpec.planAll caseRegistry .standard 64 none statusAndGenders.facets =
        .ok statusAndGendersPlan.facets := by
    cbv
  have pages : caseRegistry.page .standard [] .standard = .ok statusAndGendersPlan.page := by
    decide +kernel
  have resolves :
      Record.resolveFields caseRegistry ["status"] =
        .ok [caseType.fields[0].resolve caseType.fields] := by
    cbv
  exact SearchRequest.prepare_eq_ok_iff.mpr
    ⟨none, _, _, _, _, rfl, rfl, plans, pages, resolves, rfl⟩

/-- Two cases are shown as the preview plans them; files are not even looked for. -/
theorem search_runs_planned_request_on_twoCases :
    ofCases.search findingTwoCases (.everything "demo" "files") =
        { result := .error (.documentTypeNotFound "demo" "files"), executed := [] } ∧
      ofCases.plan statusAndGenders = .ok statusAndGendersPlan ∧
      (ofCases.search findingTwoCases statusAndGenders).executed = [statusAndGendersPlan] ∧
      statusAndGenders.Concludes statusAndGendersPlan (.ok twoCases)
        (ofCases.search findingTwoCases statusAndGenders).result ∧
      (ofCases.search findingTwoCases statusAndGenders).result = .ok twoCasesShown := by
  have plans : ofCases.plan statusAndGenders = .ok statusAndGendersPlan := by
    rw [plan, prepare_statusAndGenders]
    rfl
  have ofFiles := search_runs_planned_request ofCases findingTwoCases (.everything "demo" "files")
  have ofGenders := search_runs_planned_request ofCases findingTwoCases statusAndGenders
  obtain ⟨asked, concludes⟩ := ofGenders.2 _ plans
  refine ⟨ofFiles.1 _ rfl, plans, asked, concludes (by decide), ?_⟩
  rw [search_of_prepare_ok prepare_statusAndGenders]
  decide +kernel

end SearchService

end FacetSearch
