import FacetSearch.Elastic.Aggregation

namespace FacetSearch.Elastic

/-!
# Search requests of the engine

A plan becomes the body of one request.  With facets the filter moves from the
query to the post filter, so that each facet can count under its own filter.
-/

/-- A step of a sort into the nested objects at a path, and the step further in. -/
inductive NestedSort where
  | step (path : String) (inner : Option NestedSort)
  deriving Repr, Inhabited

/-- How to sort by one field. -/
structure SortOrder where
  order : String
  /-- The steps through the nested fields around the field, the outermost first. -/
  nested : Option NestedSort
  deriving Repr, Inhabited

/-- Which parts of a source to return. -/
inductive SourceFilter where
  | whole (wanted : Bool)
  | fields (paths : List String)
  deriving DecidableEq, Repr, Inhabited

/-- The body of a search request. -/
structure Body where
  query : Query
  /-- Applies to hits, and not to facets. -/
  postFilter : Option Query
  start : UInt64
  size : UInt64
  sort : List (List (String × SortOrder))
  source : SourceFilter
  aggregations : List (String × Aggregation)
  trackTotalHits : Bool
  deriving Repr, Inhabited

/-- The steps through a chain of nested fields; an empty chain needs none. -/
def NestedSort.ofChain (chain : List String) : Option NestedSort :=
  chain.foldr (fun path inner => some (.step path inner)) none

/-- The order of a sort key, as an object of one field. -/
def SortOrder.ofKey (key : SortKey) : List (String × SortOrder) :=
  [(key.field, { order := key.direction.name, nested := NestedSort.ofChain key.nested })]

/-- The parts of a source that a plan asks for. -/
def SourceFilter.ofPaths (paths : List String) : SourceFilter :=
  if paths.isEmpty then .whole false else .fields paths

namespace Body

/-- The filter on hits of a plan with facets; none is needed when every document matches. -/
def postFilterOf (filter : Query) : Option Query :=
  if filter.isMatchAll then none else some filter

/-- The request of a plan. -/
def ofPlan (plan : Plan) : Body :=
  let filter := Query.ofClause plan.filter
  { query := if plan.facets.isEmpty then filter else .matchAll
    postFilter := if plan.facets.isEmpty then none else postFilterOf filter
    start := plan.page.start
    size := plan.page.size
    sort := plan.page.sort.map SortOrder.ofKey
    source := .ofPaths plan.sourceFields
    aggregations :=
      Entries.ofList (plan.facets.map fun facet => (facet.facet, Aggregation.ofFacet facet))
    trackTotalHits := true }

end Body

/-- Write a step into nested objects, with the step further in inside it. -/
def NestedSort.toJson : NestedSort → Json
  | .step path none => .object [("path", .string path)]
  | .step path (some inner) => .object [("path", .string path), ("nested", inner.toJson)]

/-- Write a sort order. -/
def SortOrder.toJson (order : SortOrder) : Json :=
  .object
    (("order", .string order.order) ::
      Json.optionalMember "nested" NestedSort.toJson order.nested)

/-- Write a source filter. -/
def SourceFilter.toJson : SourceFilter → Json
  | .whole wanted => .bool wanted
  | .fields paths => .array (paths.map .string)

/-- Write the body of a request. -/
def Body.toJson (body : Body) : Json :=
  .object
    ([("query", body.query.toJson)] ++
      Json.optionalMember "post_filter" Query.toJson body.postFilter ++
      [("from", .nat body.start.toNat), ("size", .nat body.size.toNat)] ++
      listMember "sort" (body.sort.map (objectOf SortOrder.toJson)) ++
      [("_source", body.source.toJson)] ++
      Aggregation.innerMember body.aggregations ++
      [("track_total_hits", .bool body.trackTotalHits)])

section Reading

open Encoding

/-- Read a step into nested objects that is at most `height` values high. -/
def NestedSort.readWithin? :
    (height : Nat) → Json → Option NestedSort
  | 0, _ => none
  | height + 1, value => do
      match ← record? [["path"], ["nested"]] value with
      | [path, inner] =>
          some (.step (← required text? path) (← optional (readWithin? height) inner))
      | _ => none

/-- Read a step into nested objects. -/
def NestedSort.read? (value : Json) : Option NestedSort :=
  readWithin? value.height value

/-- Read a sort order. -/
def SortOrder.read? (value : Json) : Option SortOrder := do
  match ← record? [["order"], ["nested"]] value with
  | [order, nested] =>
      some { order := ← required text? order, nested := ← optional NestedSort.read? nested }
  | _ => none

/-- Read a source filter. -/
def SourceFilter.read? (value : Json) : Option SourceFilter :=
  match value with
  | .bool wanted => some (.whole wanted)
  | value => (listOf text? value).map .fields

/-- Read the body of a request. -/
def Body.read? (value : Json) : Option Body := do
  match ← record?
      [["query"], ["post_filter"], ["from"], ["size"], ["sort"], ["_source"], ["aggs"],
        ["track_total_hits"]] value with
  | [query, postFilter, start, size, sort, source, aggregations, trackTotalHits] =>
      some {
        query := ← required Query.read? query
        postFilter := ← optional Query.read? postFilter
        start := ← required unsigned64? start
        size := ← required unsigned64? size
        sort := ← defaulted [] (listOf (mapOf SortOrder.read?)) sort
        source := ← required SourceFilter.read? source
        aggregations := ← defaulted [] (mapOf Aggregation.read?) aggregations
        trackTotalHits := ← required Json.bool? trackTotalHits
      }
  | _ => none

end Reading

end FacetSearch.Elastic
