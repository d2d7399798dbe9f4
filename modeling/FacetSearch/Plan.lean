import FacetSearch.Clause.Basic
import FacetSearch.Schema.DocumentType

namespace FacetSearch

/-!
# Query plans

Everything an engine needs to run one search: the filter on hits, one planned
facet for each requested one, the sort and the window.
-/

/-- A planned range bucket. -/
structure RangeBucket where
  key : String
  clause : Clause
  deriving Repr, Inhabited

/-- How a planned facet counts. -/
inductive PlannedKind where
  | terms (size : UInt64)
  | range (buckets : List RangeBucket)
  | stats
  deriving Repr, Inhabited

/--
A planned facet.  It looks at the documents that satisfy its own filter, goes
down into the nested fields around its field, and counts there.
-/
structure PlannedFacet where
  /-- The requested name. -/
  facet : String
  /-- The source path of the counted field. -/
  field : String
  filter : Clause
  nested : List String
  kind : PlannedKind
  deriving Repr, Inhabited

/-- A sort by one source path. -/
structure SortKey where
  field : String
  direction : SortDirection
  /-- The paths of the nested fields around the field, outermost first. -/
  nested : List String
  deriving DecidableEq, Repr, Inhabited

/-- A sort and a window over the sorted hits. -/
structure Page where
  sort : List SortKey
  start : UInt64
  size : UInt64
  deriving DecidableEq, Repr, Inhabited

/-- Everything an engine needs to run one search. -/
structure Plan where
  index : String
  /-- The filter on hits; facets have filters of their own. -/
  filter : Clause
  facets : List PlannedFacet
  page : Page
  /-- The source paths to return with each hit. -/
  sourceFields : List String
  deriving Repr, Inhabited

/-- The planned facet of a name. -/
def Plan.facet?
    (plan : Plan)
    (name : String) :
    Option PlannedFacet :=
  plan.facets.find? (fun facet => facet.facet == name)

end FacetSearch
