import FacetSearch.Elastic.Query
import FacetSearch.Plan

namespace FacetSearch.Elastic

/-!
# Aggregations of the engine

A facet becomes a tower of aggregations: its filter, one step down for each
nested field around its field, and the counting aggregation at the bottom.
Every step names the next one `values`.
-/

/-- Count the most frequent values of a field. -/
structure TermsCount where
  field : String
  size : UInt64
  /-- The sort criteria of the buckets; each maps a key to a direction. -/
  order : List (List (String × String))
  deriving DecidableEq, Repr, Inhabited

/-- An aggregation; of its kinds one is set. -/
structure Aggregation where
  filter : Option Query
  /-- The path of the nested objects to step down to. -/
  nested : Option String
  /-- Whether to step back up to whole documents. -/
  reverseNested : Bool
  terms : Option TermsCount
  /-- One bucket for each of the queries, in their order. -/
  filters : Option (List Query)
  /-- The field to summarize. -/
  stats : Option String
  inner : List (String × Aggregation)
  deriving Repr, Inhabited

namespace Aggregation

/-- An aggregation of no kind. -/
def blank : Aggregation where
  filter := none
  nested := none
  reverseNested := false
  terms := none
  filters := none
  stats := none
  inner := []

/-- The name of each step from a facet down to its buckets. -/
def innerName : String := "values"

/-- The name of the count of whole documents in a bucket on a nested field. -/
def rootName : String := "root"

/--
The order of the buckets: by the count that a bucket reports, which on a
nested field is that of whole documents, and then by key.
-/
def termsOrder (isNested : Bool) : List (List (String × String)) :=
  [[(if isNested then rootName ++ ">_count" else "_count", "desc")], [("_key", "asc")]]

/-- The count of whole documents that a bucket on a nested field carries. -/
def rootCount (isNested : Bool) : List (String × Aggregation) :=
  if isNested then [(rootName, { blank with reverseNested := true })] else []

/-- The aggregation that counts. -/
def counting
    (field : String)
    (isNested : Bool) :
    PlannedKind → Aggregation
  | .terms size =>
      { blank with
        terms := some { field, size, order := termsOrder isNested }
        inner := rootCount isNested }
  | .range buckets =>
      { blank with
        filters := some (Query.ofClauses (buckets.map RangeBucket.clause))
        inner := rootCount isNested }
  | .stats => { blank with stats := some field }

/-- A step down to the nested objects at a path. -/
def descend
    (path : String)
    (inner : Aggregation) :
    Aggregation :=
  { blank with nested := some path, inner := [(innerName, inner)] }

/-- The aggregation of a planned facet. -/
def ofFacet (facet : PlannedFacet) : Aggregation :=
  { blank with
    filter := some (Query.ofClause facet.filter)
    inner :=
      [(innerName,
        facet.nested.foldr descend (counting facet.field (!facet.nested.isEmpty) facet.kind))] }

end Aggregation

/-- Write an order of buckets. -/
def orderMember (order : List (List (String × String))) : List (String × Json) :=
  listMember "order" (order.map (objectOf .string))

/-- Write a terms count. -/
def TermsCount.toJson (count : TermsCount) : Json :=
  .object
    ([("field", .string count.field), ("size", .nat count.size.toNat)] ++
      orderMember count.order)

namespace Aggregation

/-- An object with one text member. -/
def textObject (name text : String) : Json :=
  .object [(name, .string text)]

mutual
/-- Write an aggregation. -/
def toJson : Aggregation → Json
  | { filter, nested, reverseNested, terms, filters, stats, inner } =>
      .object
        (Json.optionalMember "filter" Query.toJson filter ++
          Json.optionalMember "nested" (textObject "path") nested ++
          (if reverseNested then [("reverse_nested", .object [])] else []) ++
          Json.optionalMember "terms" TermsCount.toJson terms ++
          Json.optionalMember "filters"
            (fun queries => .object [("filters", .array (queries.map Query.toJson))]) filters ++
          Json.optionalMember "stats" (textObject "field") stats ++
          innerMember inner)

/-- Named aggregations as a member that is left out when there are none. -/
def innerMember : List (String × Aggregation) → List (String × Json)
  | [] => []
  | (name, aggregation) :: rest =>
      [("aggs", .object ((name, aggregation.toJson) :: membersOf rest))]

/-- Write named aggregations. -/
def membersOf : List (String × Aggregation) → List (String × Json)
  | [] => []
  | (name, aggregation) :: rest => (name, aggregation.toJson) :: membersOf rest
end

end Aggregation

section Reading

open Encoding

/-- Read a record with one text member. -/
def textRecord?
    (name : String)
    (value : Json) :
    Option String := do
  match ← record? [[name]] value with
  | [text] => required text? text
  | _ => none

/-- Read a terms count. -/
def TermsCount.read? (value : Json) : Option TermsCount := do
  match ← record? [["field"], ["size"], ["order"]] value with
  | [field, size, order] =>
      some {
        field := ← required text? field
        size := ← required unsigned64? size
        order := ← defaulted [] (listOf (mapOf text?)) order
      }
  | _ => none

/-- Read a list of filters. -/
def filters? (value : Json) : Option (List Query) := do
  match ← record? [["filters"]] value with
  | [filters] => required (listOf Query.read?) filters
  | _ => none

/-- Read an aggregation that is at most `height` values high. -/
def Aggregation.readWithin? :
    (height : Nat) → Json → Option Aggregation
  | 0, _ => none
  | height + 1, value => do
      match ← record?
          [["filter"], ["nested"], ["reverse_nested"], ["terms"], ["filters"], ["stats"],
            ["aggs"]] value with
      | [filter, nested, reverseNested, terms, filters, stats, inner] =>
          some {
            filter := ← optional Query.read? filter
            nested := ← optional (textRecord? "path") nested
            reverseNested := (← optional (record? []) reverseNested).isSome
            terms := ← optional TermsCount.read? terms
            filters := ← optional filters? filters
            stats := ← optional (textRecord? "field") stats
            inner := ← defaulted [] (mapOf (readWithin? height)) inner
          }
      | _ => none

/-- Read an aggregation. -/
def Aggregation.read? (value : Json) : Option Aggregation :=
  readWithin? value.height value

end Reading

end FacetSearch.Elastic
