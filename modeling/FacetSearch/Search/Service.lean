import FacetSearch.Facet.Planner
import FacetSearch.Search.Request
import FacetSearch.Search.Response
import FacetSearch.Sqon.Reader
import FacetSearch.Store.Basic

namespace FacetSearch

/-!
# Searching

A request is prepared into a plan before the engine is asked anything; the
engine is asked once, for exactly that plan.
-/

/-- What an engine does with a plan: how long it takes, and how it answers. -/
structure Attempt where
  /-- The milliseconds before the answer arrives. -/
  delay : Nat
  answer : Except Error Answer

/-- A backend that runs plans. -/
abbrev Engine := Plan → Attempt

/-- Ask an engine to run a plan, after the plans that it was asked to run before. -/
def Engine.ask
    (engine : Engine)
    (plan : Plan) :
    StateM (List Plan) Attempt := do
  modify fun executed => executed ++ [plan]
  pure (engine plan)

/-- Whether an answer arrives in time; one that is there at once always does. -/
def Attempt.inTime
    (attempt : Attempt)
    (timeout : UInt64) :
    Bool :=
  attempt.delay ≤ timeout.toNat

/-- A request after everything but the engine's part is done. -/
structure Prepared where
  plan : Plan
  /-- The requested fields, to be read off each hit. -/
  fields : List Field

namespace SearchRequest

/-- The filter of a request; `null` stands for none. -/
def filter
    (maxDepth : Nat)
    (request : SearchRequest) :
    Except Error (Option Sqon) :=
  match request.sqon with
  | none => .ok none
  | some .null => .ok none
  | some document => (Sqon.ofJson maxDepth document).map some

/-- Prepare a request on a registry. -/
def prepare
    (settings : Settings)
    (registry : Registry)
    (request : SearchRequest) :
    Except Error Prepared := do
  let maxDepth := settings.compiler.maxDepth.toNat
  let sqon ← request.filter maxDepth
  let filter ← Sqon.compileOptional registry maxDepth sqon
  let facets ← FacetSpec.planAll registry settings.facets maxDepth sqon request.facets
  let page ← registry.page settings.pages request.sort request.page
  let fields ← Record.resolveFields registry request.fields
  .ok {
    plan := {
      index := registry.index
      filter
      facets
      page
      sourceFields := Record.sourceFields fields
    }
    fields
  }

end SearchRequest

/-- The response of a prepared request from the engine's answer. -/
def Prepared.respond
    (prepared : Prepared)
    (sortBucketsByKey : Bool)
    (answer : Answer) :
    Except Error SearchResponse :=
  (FacetResults.ofAnswer prepared.plan answer.facets sortBucketsByKey).map fun facets =>
    { total := answer.total
      records := answer.hits.map (Record.ofHit prepared.fields)
      facets }

/-- The result of a prepared request from what the engine does with its plan. -/
def Prepared.conclude
    (prepared : Prepared)
    (timeout : UInt64)
    (sortBucketsByKey : Bool)
    (attempt : Attempt) :
    Except Error SearchResponse :=
  if attempt.inTime timeout then
    match attempt.answer with
    | .error fault => .error fault
    | .ok answer => prepared.respond sortBucketsByKey answer
  else .error (.engineTimeout prepared.plan.index timeout)

/-- A store of document types together with the settings of a search. -/
structure SearchService where
  store : Store
  settings : Settings

/-- The result of a search, with the plans that the engine was asked to run. -/
structure SearchRun where
  result : Except Error SearchResponse
  executed : List Plan

namespace SearchService

/-- Prepare a request on the document type that it names. -/
def prepare
    (service : SearchService)
    (request : SearchRequest) :
    Except Error Prepared :=
  match service.store.get request.project request.documentType with
  | .error fault => .error fault
  | .ok registry => request.prepare service.settings registry

/-- The plan of a request, without running it. -/
def plan
    (service : SearchService)
    (request : SearchRequest) :
    Except Error Plan :=
  (service.prepare request).map Prepared.plan

/-- The timeout that applies to a request. -/
def timeout
    (service : SearchService)
    (request : SearchRequest) :
    UInt64 :=
  request.timeout.getD service.settings.engine.requestTimeout

/--
Run a request on an engine that is asked through `ask`.  The request is
prepared first, so that a faulty one is never put to the engine.
-/
def searchThrough
    {m : Type → Type}
    [Monad m]
    (service : SearchService)
    (ask : Plan → m Attempt)
    (request : SearchRequest) :
    m (Except Error SearchResponse) :=
  match service.prepare request with
  | .error fault => pure (.error fault)
  | .ok prepared => do
      let attempt ← ask prepared.plan
      pure (prepared.conclude (service.timeout request) request.sortBucketsByKey attempt)

/-- Run a request on an engine. -/
def search
    (service : SearchService)
    (engine : Engine)
    (request : SearchRequest) :
    SearchRun :=
  let (result, executed) := (service.searchThrough engine.ask request).run []
  { result, executed }

end SearchService

end FacetSearch
