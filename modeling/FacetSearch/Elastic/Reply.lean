import FacetSearch.Elastic.Aggregation
import FacetSearch.Engine.Answer
import FacetSearch.Facet.Result
import FacetSearch.Json.Printer

namespace FacetSearch.Elastic

/-!
# Replies of the engine

A reply is read into hits and the reported facets of a plan.  A facet lies at
the bottom of the tower of aggregations that was asked for, and is recognised
by its buckets or by its count.
-/

/-- The number of hits, as an object or, from older engines, as a bare number. -/
inductive Total where
  | object (value : UInt64) (relation : Option String)
  | count (value : UInt64)
  deriving DecidableEq, Repr, Inhabited

/-- The number of hits. -/
def Total.value : Total → UInt64
  | .object value _ => value
  | .count value => value

/-- A hit of a reply; a source that was not returned is `null`. -/
structure ReplyHit where
  id : String
  source : Json
  deriving DecidableEq, Repr, Inhabited

/-- The parts of a reply that are read. -/
structure Reply where
  /-- The milliseconds that the engine took. -/
  took : UInt64
  timedOut : Bool
  total : Option Total
  hits : List ReplyHit
  aggregations : List (String × Json)
  deriving DecidableEq, Repr, Inhabited

/-- A bucket of a reply. -/
structure ReplyBucket where
  key : Option Json
  keyAsString : Option String
  count : UInt64
  rootCount : Option UInt64
  deriving DecidableEq, Repr, Inhabited

section Reading

open Encoding

/-- Read the number of hits. -/
def Total.read? (value : Json) : Option Total :=
  match value with
  | .object members => do
      let total ← required unsigned64? (← slot? members ["value"])
      let relation ← optional text? (← slot? members ["relation"])
      some (.object total relation)
  | value => (unsigned64? value).map .count

/-- Read a hit. -/
def ReplyHit.read? (value : Json) : Option ReplyHit := do
  match ← record? [["_id"], ["_source"]] value with
  | [id, source] =>
      some {
        id := ← required text? id
        source := ← defaulted .null raw? source
      }
  | _ => none

/-- Read the section of a reply that holds the hits. -/
def readHits? (value : Json) : Option (Option Total × List ReplyHit) := do
  match ← record? [["total"], ["hits"]] value with
  | [total, hits] =>
      let total ← optional Total.read? total
      let hits ← defaulted [] (listOf ReplyHit.read?) hits
      some (total, hits)
  | _ => none

/-- Read a reply. -/
def Reply.read? (value : Json) : Option Reply := do
  match ← record? [["took"], ["timed_out"], ["hits"], ["aggregations"]] value with
  | [took, timedOut, hits, aggregations] =>
      let (total, hits) ← required readHits? hits
      some {
        took := ← defaulted 0 unsigned64? took
        timedOut := ← defaulted false Json.bool? timedOut
        total
        hits
        aggregations := ← defaulted [] (mapOf raw?) aggregations
      }
  | _ => none

/-- Read the count of documents in a bucket of whole documents. -/
def readDocCount? (value : Json) : Option UInt64 := do
  match ← record? [["doc_count"]] value with
  | [count] => required unsigned64? count
  | _ => none

/-- Read a bucket. -/
def ReplyBucket.read? (value : Json) : Option ReplyBucket := do
  match ← record? [["key"], ["key_as_string"], ["doc_count"], ["root"]] value with
  | [key, keyAsString, count, rootCount] =>
      some {
        key := ← optional raw? key
        keyAsString := ← optional text? keyAsString
        count := ← required unsigned64? count
        rootCount := ← optional readDocCount? rootCount
      }
  | _ => none

end Reading

/-- Write the number of hits. -/
def Total.toJson : Total → Json
  | .object value relation =>
      .object [
        ("value", .nat value.toNat),
        ("relation", match relation with
          | none => .null
          | some relation => .string relation)]
  | .count value => .nat value.toNat

/-- Write a hit. -/
def ReplyHit.toJson (hit : ReplyHit) : Json :=
  .object [("_id", .string hit.id), ("_source", hit.source)]

/-- Write a reply. -/
def Reply.toJson (reply : Reply) : Json :=
  .object [
    ("took", .nat reply.took.toNat),
    ("timed_out", .bool reply.timedOut),
    ("hits", .object [
      ("total", match reply.total with
        | none => .null
        | some total => total.toJson),
      ("hits", .array (reply.hits.map ReplyHit.toJson))]),
    ("aggregations", .object reply.aggregations)]

namespace ReplyBucket

/-- The key of a bucket: its own text, else the text of its value; none for a filter. -/
def label (bucket : ReplyBucket) : String :=
  match bucket.keyAsString, bucket.key with
  | some text, _ => text
  | none, some (.string text) => text
  | none, some value => value.render
  | none, none => ""

/-- A bucket as reported. -/
def toRaw (bucket : ReplyBucket) : RawBucket where
  key := bucket.label
  count := bucket.count
  rootCount := bucket.rootCount

end ReplyBucket

/-- The reported facet of the bottom of a tower, if the members are one. -/
def bottom?
    (facet : String)
    (members : List (String × Json)) :
    Option (Except ReplyFault RawFacet) :=
  match Entries.lookup? "buckets" members with
  | some buckets =>
      match Encoding.listOf ReplyBucket.read? buckets with
      | some entries => some (.ok (.buckets (entries.map ReplyBucket.toRaw)))
      | none => some (.error (.unreadableFacet facet "unreadable buckets"))
  | none =>
      match Entries.lookup? "count" members with
      | some _ =>
          match Stats.read? (.object members) with
          | some stats => some (.ok (.stats stats))
          | none => some (.error (.unreadableFacet facet "unreadable statistics"))
      | none => none

mutual
/-- Step down a tower to the buckets or the statistics at its bottom. -/
def readFacet (facet : String) : Json → Except ReplyFault RawFacet
  | .object members => (bottom? facet members).getD (readInner facet members)
  | .null | .bool _ | .number _ | .string _ | .array _ => .error (.emptyFacet facet)

/-- Step down to the member that holds the next step. -/
def readInner (facet : String) : List (String × Json) → Except ReplyFault RawFacet
  | [] => .error (.emptyFacet facet)
  | (name, value) :: rest =>
      if name = Aggregation.innerName then readFacet facet value else readInner facet rest
end

/-- Read the reported facets of planned ones, entering each. -/
def readFacets
    (aggregations : List (String × Json)) :
    List PlannedFacet → List (String × RawFacet) →
      Except ReplyFault (List (String × RawFacet))
  | [], facets => .ok facets
  | planned :: rest, facets =>
      match Entries.lookup? planned.facet aggregations with
      | none => .error (.missingFacet planned.facet)
      | some tower =>
          match readFacet planned.facet tower with
          | .error fault => .error fault
          | .ok facet => readFacets aggregations rest (Entries.insert planned.facet facet facets)

namespace Reply

/-- The answer to a plan that a reply holds. -/
def answer
    (plan : Plan)
    (reply : Reply) :
    Except ReplyFault Answer :=
  (readFacets reply.aggregations plan.facets []).map fun facets =>
    { total := (reply.total.map Total.value).getD 0
      hits := reply.hits.map fun hit => { id := hit.id, source := hit.source }
      facets }

end Reply

/-- The answer to a plan that the text of a reply holds, once it is read as JSON. -/
def parseAnswer
    (plan : Plan)
    (value : Json) :
    Except ReplyFault Answer :=
  match Reply.read? value with
  | none => .error (.unreadable "unreadable response")
  | some reply => reply.answer plan

end FacetSearch.Elastic
