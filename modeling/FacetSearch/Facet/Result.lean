import FacetSearch.Engine.Answer
import FacetSearch.Encoding
import FacetSearch.Plan

namespace FacetSearch

/-!
# Facet results

Reported facets are matched to the planned ones.  Terms keep the order of the
engine, or are sorted by count and then by key; ranges are matched by position
and take the planned keys.
-/

/-- A counted value. -/
structure FacetBucket where
  key : String
  count : UInt64
  deriving DecidableEq, Repr, Inhabited

/-- The result of a facet. -/
inductive FacetResult where
  | buckets (buckets : List FacetBucket)
  | stats (stats : Stats)
  deriving DecidableEq, Repr, Inhabited

/-- The results of facets, sorted by facet. -/
abbrev FacetResults := List (String × FacetResult)

namespace FacetBucket

/-- The bucket of a reported one. -/
def ofRaw (raw : RawBucket) : FacetBucket :=
  { key := raw.key, count := raw.documents }

/-- Whether a bucket comes before another: larger counts first, then smaller keys. -/
def precedes (left right : FacetBucket) : Bool :=
  right.count < left.count || (left.count == right.count && left.key ≤ right.key)

/-- Put a bucket before the first one that it precedes. -/
def insertSorted (bucket : FacetBucket) : List FacetBucket → List FacetBucket
  | [] => [bucket]
  | first :: rest =>
      if bucket.precedes first then bucket :: first :: rest
      else first :: insertSorted bucket rest

/-- Sort buckets by count and then by key. -/
def sort : List FacetBucket → List FacetBucket
  | [] => []
  | bucket :: rest => insertSorted bucket (sort rest)

end FacetBucket

namespace PlannedFacet

/-- The result of a planned facet from what was reported for it. -/
def result
    (sortByKey : Bool)
    (planned : PlannedFacet) :
    RawFacet → Except AnswerFault FacetResult
  | .stats stats =>
      match planned.kind with
      | .stats => .ok (.stats stats)
      | _ => .error (.wrongShape planned.facet)
  | .buckets raw =>
      match planned.kind with
      | .terms _ =>
          let buckets := raw.map FacetBucket.ofRaw
          .ok (.buckets (if sortByKey then FacetBucket.sort buckets else buckets))
      | .range ranges =>
          if ranges.length ≠ raw.length then
            .error (.bucketCount planned.facet ranges.length raw.length)
          else
            .ok (.buckets (List.zipWith
              (fun range bucket => { key := range.key, count := bucket.documents })
              ranges raw))
      | .stats => .error (.wrongShape planned.facet)

end PlannedFacet

namespace FacetResults

/-- Match reported facets to planned ones in order, entering each result. -/
def collect
    (reported : List (String × RawFacet))
    (sortByKey : Bool) :
    List PlannedFacet → FacetResults → Except AnswerFault FacetResults
  | [], results => .ok results
  | planned :: rest, results =>
      match Entries.lookup? planned.facet reported with
      | none => .error (.missingFacet planned.facet)
      | some raw =>
          match planned.result sortByKey raw with
          | .error fault => .error fault
          | .ok result =>
              collect reported sortByKey rest (Entries.insert planned.facet result results)

/-- The results of a plan's facets from the reported ones. -/
def ofAnswer
    (plan : Plan)
    (reported : List (String × RawFacet))
    (sortByKey : Bool) :
    Except Error FacetResults :=
  (collect reported sortByKey plan.facets []).mapError fun fault =>
    .engineRejected plan.index none (.mismatch fault) none

end FacetResults

/-- A number, or `null` when there is none or it is not finite. -/
def Stats.number : Option Binary64 → Json
  | some value => if value.isFinite then .number (.float value) else .null
  | none => .null

/-- Write statistics. -/
def Stats.toJson (stats : Stats) : Json :=
  .object [
    ("count", .nat stats.count.toNat),
    ("min", number stats.min),
    ("max", number stats.max),
    ("avg", number stats.avg),
    ("sum", number stats.sum)]

/-- Read any number as a double. -/
def Stats.readNumber? : Json → Option Binary64
  | .number (.float value) => some value
  | .number (.integer value) => Binary64.ofInt? value
  | _ => none

open Encoding in
/--
Read statistics.  Written as an object, the four numbers may be missing;
written as an array, all five entries have to be there.
-/
def Stats.read? (value : Json) : Option Stats := do
  match value.items? with
  | some items => if items.length = 5 then pure () else none
  | none => pure ()
  match ← record? [["count"], ["min"], ["max"], ["avg"], ["sum"]] value with
  | [count, min, max, avg, sum] =>
      some {
        count := ← required unsigned64? count
        min := ← optional readNumber? min
        max := ← optional readNumber? max
        avg := ← optional readNumber? avg
        sum := ← optional readNumber? sum
      }
  | _ => none

/-- Write a bucket. -/
def FacetBucket.toJson (bucket : FacetBucket) : Json :=
  .object [("key", .string bucket.key), ("doc_count", .nat bucket.count.toNat)]

open Encoding in
/-- Read a bucket. -/
def FacetBucket.read? (value : Json) : Option FacetBucket := do
  match ← record? [["key"], ["doc_count"]] value with
  | [key, count] =>
      some { key := ← required text? key, count := ← required unsigned64? count }
  | _ => none

/-- Write a facet result: an array of buckets, or an object of statistics. -/
def FacetResult.toJson : FacetResult → Json
  | .buckets entries => .array (entries.map FacetBucket.toJson)
  | .stats summary => summary.toJson

/-- Read a facet result: buckets where possible, else statistics. -/
def FacetResult.read? (value : Json) : Option FacetResult :=
  match Encoding.listOf FacetBucket.read? value with
  | some entries => some (.buckets entries)
  | none => (Stats.read? value).map .stats

/-- Write facet results as an object. -/
def FacetResults.toJson (results : FacetResults) : Json :=
  .object (results.map fun (facet, result) => (facet, result.toJson))

/-- Read facet results from an object. -/
def FacetResults.read? (value : Json) : Option FacetResults :=
  Encoding.mapOf FacetResult.read? value

end FacetSearch
