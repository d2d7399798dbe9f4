import FacetSearch.Json.Basic

namespace FacetSearch

/-!
# Clauses

The filter algebra between requests and engines.  Fields are named by source
path, and a clause on a nested field stands inside a scope for each nested
field around it.
-/

/-- An end of a range. -/
structure Bound where
  value : Json
  inclusive : Bool
  deriving DecidableEq, Repr, Inhabited

namespace Bound

/-- An end that belongs to the range. -/
def closed (value : Json) : Bound :=
  { value, inclusive := true }

/-- An end that does not belong to the range. -/
def openEnd (value : Json) : Bound :=
  { value, inclusive := false }

end Bound

/-- A filter on documents. -/
inductive Clause where
  | matchAll
  | and (clauses : List Clause)
  | or (clauses : List Clause)
  | not (clause : Clause)
  /-- The field has one of the values. -/
  | term (field : String) (values : List Json)
  | range (field : String) (lower upper : Option Bound)
  | present (field : String)
  | wildcard (field : String) (pattern : String) (caseInsensitive : Bool)
  /-- A single object of the nested array at the path satisfies the clause. -/
  | nested (path : String) (clause : Clause)
  deriving Repr, Inhabited

namespace Clause

/-- Whether a clause is the one that matches everything. -/
def isMatchAll : Clause → Bool
  | .matchAll => true
  | _ => false

/-- The conjunction of clauses without those that match everything. -/
def all (clauses : List Clause) : Clause :=
  match clauses.filter (fun clause => !clause.isMatchAll) with
  | [] => .matchAll
  | [clause] => clause
  | kept => .and kept

/-- The disjunction of clauses; one that matches everything decides it. -/
def any (clauses : List Clause) : Clause :=
  if clauses.any isMatchAll then .matchAll
  else
    match clauses with
    | [] => .matchAll
    | [clause] => clause
    | several => .or several

/-- Put a clause inside one scope for each path, the first outermost. -/
def within
    (chain : List String)
    (clause : Clause) :
    Clause :=
  chain.foldr .nested clause

mutual
/-- The number of nested scopes in a clause. -/
def scopeCount : Clause → Nat
  | .and clauses => scopeCounts clauses
  | .or clauses => scopeCounts clauses
  | .not clause => clause.scopeCount
  | .nested _ clause => clause.scopeCount + 1
  | .matchAll | .term .. | .range .. | .present .. | .wildcard .. => 0

/-- The number of nested scopes in a list of clauses. -/
def scopeCounts : List Clause → Nat
  | [] => 0
  | clause :: rest => clause.scopeCount + scopeCounts rest
end

end Clause

end FacetSearch
