import FacetSearch.Facet.Spec
import FacetSearch.Json.Parser
import FacetSearch.Schema.DocumentType
import FacetSearch.Search.Page

namespace FacetSearch

/-!
# Search requests

What a caller asks for: a document type, a filter, the fields to return, a
sort, a page and facets.
-/

/-- A search request. -/
structure SearchRequest where
  project : String
  documentType : String
  /-- The filter as it was sent; without one every document matches. -/
  sqon : Option Json
  fields : List String
  sort : List SortField
  page : PageRequest
  facets : List FacetSpec
  /-- Whether to sort terms by count and key, whatever the order of the engine. -/
  sortBucketsByKey : Bool
  /-- The timeout in milliseconds, in the place of the configured one. -/
  timeout : Option UInt64
  deriving DecidableEq, Repr

namespace SearchRequest

/-- A request for the first page of everything. -/
def everything
    (project documentType : String) :
    SearchRequest where
  project := project
  documentType := documentType
  sqon := none
  fields := []
  sort := []
  page := .standard
  facets := []
  sortBucketsByKey := false
  timeout := none

open Encoding in
/-- Read a request. -/
def read? (value : Json) : Option SearchRequest := do
  let members ← value.members?
  match ← slots? members
      [["project"], ["documentType"], ["sqon"], ["fields"], ["sort"], ["first"], ["offset"],
        ["facets"], ["sortBucketsByKey"], ["timeoutMs"]] with
  | [project, documentType, sqon, fields, sort, first, offset, facets, byKey, timeout] =>
      some {
        project := ← required text? project
        documentType := ← required text? documentType
        sqon := ← optional (fun sqon => some (Json.normalize sqon)) sqon
        fields := ← defaulted [] (listOf text?) fields
        sort := ← defaulted [] (listOf SortField.read?) sort
        page := {
          first := ← optional signed64? first
          offset := ← optional signed64? offset
        }
        facets := ← defaulted [] (listOf FacetSpec.read?) facets
        sortBucketsByKey := ← defaulted false Json.bool? byKey
        timeout := ← optional unsigned64? timeout
      }
  | _ => none

/-- What is looked at in a request: everything but unknown members of its sorts. -/
def shape : Json.Shape :=
  .object [("sort", .items (.record SortField.memberNames.flatten))]

/-- Read a request from its text. -/
def parse? (text : String) : Option SearchRequest :=
  (Json.parseParts? shape text).bind read?

/-- A signed number, `null` when there is none. -/
def signed : Option Int64 → Json
  | none => .null
  | some value => .int value.toInt

/-- Write a request. -/
def toJson (request : SearchRequest) : Json :=
  .object
    ([("project", .string request.project),
      ("documentType", .string request.documentType)] ++
      Json.optionalMember "sqon" id request.sqon ++
      [("fields", .array (request.fields.map .string)),
        ("sort", .array (request.sort.map SortField.toJson)),
        ("first", signed request.page.first),
        ("offset", signed request.page.offset),
        ("facets", .array (request.facets.map FacetSpec.toJson)),
        ("sortBucketsByKey", .bool request.sortBucketsByKey)] ++
      Json.optionalMember "timeoutMs" (fun timeout => .nat timeout.toNat) request.timeout)

end SearchRequest

end FacetSearch
