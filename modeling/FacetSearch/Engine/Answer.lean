import FacetSearch.Error

namespace FacetSearch

/-!
# Answers of an engine

What an engine reports for a plan, before fields are extracted and facets are
matched to what was planned.
-/

/-- Summary statistics of a numeric field. -/
structure Stats where
  count : UInt64
  min : Option Binary64
  max : Option Binary64
  avg : Option Binary64
  sum : Option Binary64
  deriving DecidableEq, Repr, Inhabited

/-- A bucket as reported. -/
structure RawBucket where
  key : String
  count : UInt64
  /-- The number of whole documents in the bucket, for a facet on a nested field. -/
  rootCount : Option UInt64
  deriving DecidableEq, Repr, Inhabited

/-- The number of documents that a bucket stands for. -/
def RawBucket.documents (bucket : RawBucket) : UInt64 :=
  bucket.rootCount.getD bucket.count

/-- A facet as reported. -/
inductive RawFacet where
  | buckets (buckets : List RawBucket)
  | stats (stats : Stats)
  deriving DecidableEq, Repr, Inhabited

/-- A hit as reported. -/
structure RawHit where
  id : String
  source : Json
  deriving DecidableEq, Repr, Inhabited

/-- The answer of an engine. -/
structure Answer where
  total : UInt64
  hits : List RawHit
  /-- The reported facets by name. -/
  facets : List (String × RawFacet)
  deriving DecidableEq, Repr, Inhabited

end FacetSearch
