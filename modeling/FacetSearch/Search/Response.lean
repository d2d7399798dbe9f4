import FacetSearch.Facet.Result
import FacetSearch.Record.Decoder

namespace FacetSearch

/-!
# Search responses

What a caller gets: the number of matching documents, one page of records and
the results of the facets.
-/

/-- A search response. -/
structure SearchResponse where
  total : UInt64
  records : List Record
  facets : FacetResults
  deriving DecidableEq, Repr

namespace SearchResponse

/-- Write a response. -/
def toJson (response : SearchResponse) : Json :=
  .object [
    ("total", .nat response.total.toNat),
    ("data", .array (response.records.map Record.toJson)),
    ("aggregations", response.facets.toJson)]

open Encoding in
/-- Read a response. -/
def read? (value : Json) : Option SearchResponse := do
  match ← record? [["total"], ["data"], ["aggregations"]] value with
  | [total, records, facets] =>
      some {
        total := ← required unsigned64? total
        records := ← required (listOf Record.read?) records
        facets := ← required FacetResults.read? facets
      }
  | _ => none

end SearchResponse

end FacetSearch
