import FacetSearch.Clause.Meaning
import FacetSearch.Elastic.Outline

namespace FacetSearch.Elastic

/-!
# What bodies say about documents

Queries have a meaning of their own, by the rules of the engine.  Only the
conditions on single fields are read as the clauses that they were written for.
-/

namespace Query

variable {α : Type}

mutual
/-- Whether a query matches an object. -/
def holds
    (test : ObjectTest α) :
    Query → DocumentTree α → Bool
  | .matchAll, _ => true
  | .bool filter should mustNot minimum, object =>
      matchCount test filter object == filter.length &&
        matchCount test mustNot object == 0 &&
        (minimum.all fun least => decide (least.toNat ≤ matchCount test should object))
  | .nested path query, object => (object.children path).any fun child => query.holds test child
  | .terms fields, object => (toClause? (.terms fields)).any fun clause => test clause object
  | .range fields, object => (toClause? (.range fields)).any fun clause => test clause object
  | .present field, object => (toClause? (.present field)).any fun clause => test clause object
  | .wildcard fields, object =>
      (toClause? (.wildcard fields)).any fun clause => test clause object

/-- The number of queries of a list that match an object. -/
def matchCount
    (test : ObjectTest α) :
    List Query → DocumentTree α → Nat
  | [], _ => 0
  | query :: rest, object =>
      (if query.holds test object then 1 else 0) + matchCount test rest object
end

end Query

namespace Body

variable {α : Type}

/-- Whether a document is a hit: the query matches it, and the post filter if there is one. -/
def isHit
    (test : ObjectTest α)
    (body : Body)
    (document : DocumentTree α) :
    Bool :=
  body.query.holds test document &&
    body.postFilter.all fun filter => filter.holds test document

/--
Whether an aggregation sees a document: the query matches it, and so does the
filter of the aggregation.  The post filter plays no part.
-/
def isSeenBy
    (test : ObjectTest α)
    (body : Body)
    (name : String)
    (document : DocumentTree α) :
    Bool :=
  body.query.holds test document &&
    (Entries.lookup? name body.aggregations).any fun aggregation =>
      aggregation.filter.all fun filter => filter.holds test document

end Body

end FacetSearch.Elastic
