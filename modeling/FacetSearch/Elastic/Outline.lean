import FacetSearch.Elastic.Body

namespace FacetSearch.Elastic

/-!
# Reading bodies back

The body of a request still says what was planned: the filter, the page, the
source fields, and for each facet its filter, its chain and how it counts.
-/

/-- The lower or upper end that two members of range bounds stand for. -/
def endOf? : (closed opened : Option Json) → Option (Option Bound)
  | none, none => some none
  | some value, none => some (some (.closed value))
  | none, some value => some (some (.openEnd value))
  | some _, some _ => none

namespace Query

mutual
/-- The clause that a query was written for. -/
def toClause? : Query → Option Clause
  | .matchAll => some .matchAll
  | .bool filter [] [] none => (toClauses? filter).map .and
  | .bool [] should [] (some least) =>
      if least = 1 then (toClauses? should).map .or else none
  | .bool [] [] [query] none => query.toClause?.map .not
  | .terms [(field, values)] => some (.term field values)
  | .range [(field, bounds)] => do
      some (.range field (← endOf? bounds.gte bounds.gt) (← endOf? bounds.lte bounds.lt))
  | .present field => some (.present field)
  | .wildcard [(field, pattern)] =>
      some (.wildcard field pattern.value (pattern.caseInsensitive.getD false))
  | .nested path query => query.toClause?.map (.nested path)
  | _ => none

/-- The clauses that a list of queries was written for. -/
def toClauses? : List Query → Option (List Clause)
  | [] => some []
  | query :: rest => do some ((← query.toClause?) :: (← toClauses? rest))
end

end Query

/-- How a facet counts, as far as a body tells. -/
inductive CountOutline where
  | terms (field : String) (size : UInt64)
  | range (clauses : List Clause)
  | stats (field : String)
  deriving Repr, Inhabited

/-- What a body tells about a facet. -/
structure FacetOutline where
  filter : Clause
  nested : List String
  count : CountOutline
  deriving Repr, Inhabited

/-- What a body tells about a plan. -/
structure Outline where
  filter : Clause
  page : Page
  sourceFields : List String
  facets : List (String × FacetOutline)
  deriving Repr, Inhabited

/-- The outline of how a planned facet counts. -/
def CountOutline.ofKind (field : String) : PlannedKind → CountOutline
  | .terms size => .terms field size
  | .range buckets => .range (buckets.map RangeBucket.clause)
  | .stats => .stats field

/-- The outline of a planned facet. -/
def FacetOutline.ofFacet (facet : PlannedFacet) : FacetOutline where
  filter := facet.filter
  nested := facet.nested
  count := .ofKind facet.field facet.kind

namespace Aggregation

/-- How an aggregation at the bottom of a facet counts. -/
def count? (aggregation : Aggregation) : Option CountOutline :=
  match aggregation.terms, aggregation.filters, aggregation.stats with
  | some terms, none, none => some (.terms terms.field terms.size)
  | none, some filters, none => (Query.toClauses? filters).map .range
  | none, none, some field => some (.stats field)
  | _, _, _ => none

mutual
/-- The chain down to the aggregation that counts, and how it counts. -/
def descent? : Aggregation → Option (List String × CountOutline)
  | ⟨_, some path, _, _, _, _, inner⟩ =>
      (descentOf? inner).map fun below => (path :: below.1, below.2)
  | ⟨filter, none, reverseNested, terms, filters, stats, inner⟩ =>
      (count? ⟨filter, none, reverseNested, terms, filters, stats, inner⟩).map
        fun count => ([], count)

/-- The chain below the only aggregation of a list. -/
def descentOf? : List (String × Aggregation) → Option (List String × CountOutline)
  | [(_, aggregation)] => aggregation.descent?
  | _ => none
end

/-- The outline of the facet that an aggregation was written for. -/
def outline? (aggregation : Aggregation) : Option FacetOutline := do
  let filter ← (← aggregation.filter).toClause?
  let (nested, count) ← descentOf? aggregation.inner
  some { filter, nested, count }

end Aggregation

/-- The direction of a name. -/
def directionOf? (name : String) : Option SortDirection :=
  if name = SortDirection.asc.name then some .asc
  else if name = SortDirection.desc.name then some .desc
  else none

/-- The paths on the way through nested objects, the outermost first. -/
def NestedSort.chain : NestedSort → List String
  | .step path none => [path]
  | .step path (some inner) => path :: inner.chain

/-- The sort key that an object of one field was written for. -/
def sortKeyOf? : List (String × SortOrder) → Option SortKey
  | [(field, order)] => do
      some {
        field
        direction := ← directionOf? order.order
        nested := (order.nested.map NestedSort.chain).getD [] }
  | _ => none

/-- The source paths that a source filter asks for. -/
def SourceFilter.paths : SourceFilter → List String
  | .whole _ => []
  | .fields paths => paths

namespace Body

/-- The query that decides which documents are hits. -/
def hitQuery (body : Body) : Query :=
  if body.aggregations.isEmpty then body.query else body.postFilter.getD .matchAll

/-- What a body tells about the plan that it was written for. -/
def outline? (body : Body) : Option Outline := do
  some {
    filter := ← body.hitQuery.toClause?
    page := {
      sort := ← body.sort.mapM sortKeyOf?
      start := body.start
      size := body.size }
    sourceFields := body.source.paths
    facets := ← body.aggregations.mapM fun entry => do
      some (entry.1, ← entry.2.outline?) }

end Body

end FacetSearch.Elastic
