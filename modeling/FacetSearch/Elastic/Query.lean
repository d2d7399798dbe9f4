import FacetSearch.Clause.Basic
import FacetSearch.Encoding

namespace FacetSearch.Elastic

/-!
# Queries of the engine

The part of the engine's query language that filters are written in.  Parts of
a query that say nothing are left out when it is written.
-/

/-- The bounds of a range query. -/
structure RangeBounds where
  gte : Option Json
  gt : Option Json
  lte : Option Json
  lt : Option Json
  deriving DecidableEq, Repr, Inhabited

/-- The pattern of a wildcard query. -/
structure WildcardPattern where
  value : String
  caseInsensitive : Option Bool
  deriving DecidableEq, Repr, Inhabited

/-- A query. -/
inductive Query where
  | matchAll
  /-- The field has one of the values. -/
  | terms (fields : List (String × List Json))
  | range (fields : List (String × RangeBounds))
  | bool (filter should mustNot : List Query) (minimumShouldMatch : Option UInt32)
  | present (field : String)
  | wildcard (fields : List (String × WildcardPattern))
  | nested (path : String) (query : Query)
  deriving Repr, Inhabited

/-- Bounds that exclude nothing. -/
def RangeBounds.unbounded : RangeBounds where
  gte := none
  gt := none
  lte := none
  lt := none

/-- The bounds with the ends of a clause's range. -/
def RangeBounds.ofEnds
    (lower upper : Option Bound) :
    RangeBounds where
  gte := lower.bind fun bound => if bound.inclusive then some bound.value else none
  gt := lower.bind fun bound => if bound.inclusive then none else some bound.value
  lte := upper.bind fun bound => if bound.inclusive then some bound.value else none
  lt := upper.bind fun bound => if bound.inclusive then none else some bound.value

namespace Query

/-- Whether a query is the one that matches everything. -/
def isMatchAll : Query → Bool
  | .matchAll => true
  | _ => false

/-- Every query matches. -/
def every (queries : List Query) : Query :=
  .bool queries [] [] none

/-- Some query matches. -/
def atLeastOne (queries : List Query) : Query :=
  .bool [] queries [] (some 1)

/-- The query does not match. -/
def negate (query : Query) : Query :=
  .bool [] [] [query] none

mutual
/-- The query of a clause. -/
def ofClause : Clause → Query
  | .matchAll => .matchAll
  | .and clauses => every (ofClauses clauses)
  | .or clauses => atLeastOne (ofClauses clauses)
  | .not clause => negate (ofClause clause)
  | .term field values => .terms [(field, values)]
  | .range field lower upper => .range [(field, .ofEnds lower upper)]
  | .present field => .present field
  | .wildcard field pattern caseInsensitive =>
      .wildcard [(field, {
        value := pattern
        caseInsensitive := if caseInsensitive then some true else none })]
  | .nested path clause => .nested path (ofClause clause)

/-- The queries of a list of clauses. -/
def ofClauses : List Clause → List Query
  | [] => []
  | clause :: rest => ofClause clause :: ofClauses rest
end

end Query

/-- Write bounds, each only where it is given. -/
def RangeBounds.toJson (bounds : RangeBounds) : Json :=
  .object
    (Json.optionalMember "gte" id bounds.gte ++
      Json.optionalMember "gt" id bounds.gt ++
      Json.optionalMember "lte" id bounds.lte ++
      Json.optionalMember "lt" id bounds.lt)

/-- Write a pattern. -/
def WildcardPattern.toJson (pattern : WildcardPattern) : Json :=
  .object
    (("value", .string pattern.value) ::
      Json.optionalMember "case_insensitive" .bool pattern.caseInsensitive)

/-- A list as a member that is left out when the list is empty. -/
def listMember
    (name : String)
    (items : List Json) :
    List (String × Json) :=
  if items.isEmpty then [] else [(name, .array items)]

/-- Write entries as an object. -/
def objectOf
    {α : Type}
    (write : α → Json)
    (entries : List (String × α)) :
    Json :=
  .object (entries.map fun entry => (entry.1, write entry.2))

namespace Query

mutual
/-- Write a query as an object with one member, named for its kind. -/
def toJson : Query → Json
  | .matchAll => .object [("match_all", .object [])]
  | .terms fields => .object [("terms", objectOf .array fields)]
  | .range fields => .object [("range", objectOf RangeBounds.toJson fields)]
  | .bool filter should mustNot minimum =>
      .object [("bool", .object
        (listMember "filter" (toJsons filter) ++
          listMember "should" (toJsons should) ++
          listMember "must_not" (toJsons mustNot) ++
          Json.optionalMember "minimum_should_match" (fun least => .nat least.toNat) minimum))]
  | .present field => .object [("exists", .object [("field", .string field)])]
  | .wildcard fields => .object [("wildcard", objectOf WildcardPattern.toJson fields)]
  | .nested path query =>
      .object [("nested", .object [("path", .string path), ("query", query.toJson)])]

/-- Write a list of queries. -/
def toJsons : List Query → List Json
  | [] => []
  | query :: rest => query.toJson :: toJsons rest
end

end Query

section Reading

open Encoding

/-- Read a raw value. -/
def raw? (value : Json) : Option Json :=
  some value.normalize

/-- Read bounds. -/
def RangeBounds.read? (value : Json) : Option RangeBounds := do
  match ← record? [["gte"], ["gt"], ["lte"], ["lt"]] value with
  | [gte, gt, lte, lt] =>
      some {
        gte := ← optional raw? gte
        gt := ← optional raw? gt
        lte := ← optional raw? lte
        lt := ← optional raw? lt
      }
  | _ => none

/-- Read a pattern. -/
def WildcardPattern.read? (value : Json) : Option WildcardPattern := do
  match ← record? [["value"], ["case_insensitive"]] value with
  | [pattern, caseInsensitive] =>
      some {
        value := ← required text? pattern
        caseInsensitive := ← optional Json.bool? caseInsensitive
      }
  | _ => none

/-- Read an unsigned 32-bit integer. -/
def unsigned32? (value : Json) : Option UInt32 :=
  (natBelow UInt32.size value).map UInt32.ofNat

/-- Read a query that is at most `height` values high. -/
def Query.readWithin? :
    (height : Nat) → Json → Option Query
  | 0, _ => none
  | height + 1, value => do
      match value with
      | .object [("match_all", body)] =>
          let _ ← record? [] body
          some .matchAll
      | .object [("terms", body)] => (mapOf (listOf raw?) body).map .terms
      | .object [("range", body)] => (mapOf RangeBounds.read? body).map .range
      | .object [("bool", body)] =>
          match ← record? [["filter"], ["should"], ["must_not"], ["minimum_should_match"]]
              body with
          | [filter, should, mustNot, minimum] =>
              some (.bool
                (← defaulted [] (listOf (readWithin? height)) filter)
                (← defaulted [] (listOf (readWithin? height)) should)
                (← defaulted [] (listOf (readWithin? height)) mustNot)
                (← optional unsigned32? minimum))
          | _ => none
      | .object [("exists", body)] =>
          match ← record? [["field"]] body with
          | [field] => some (.present (← required text? field))
          | _ => none
      | .object [("wildcard", body)] =>
          (mapOf WildcardPattern.read? body).map .wildcard
      | .object [("nested", body)] =>
          match ← record? [["path"], ["query"]] body with
          | [path, query] =>
              some (.nested
                (← required text? path)
                (← required (readWithin? height) query))
          | _ => none
      | _ => none

/-- Read a query. -/
def Query.read? (value : Json) : Option Query :=
  readWithin? value.height value

end Reading

end FacetSearch.Elastic
