import FacetSearch.Clause.Basic

namespace FacetSearch

/-!
# Shared scopes

Sibling clauses that lie under the same nested field are gathered into one
scope for it, at every level of nesting.  Each clause comes with the chain of
nested fields around it; the chains are entered into a forest, and the forest
is then joined level by level.
-/

/-- A clause that still has to be put inside the scopes of a chain. -/
structure Pending where
  chain : List String
  clause : Clause
  deriving Repr, Inhabited

namespace Pending

/-- A clause that needs no scope. -/
def bare (clause : Clause) : Pending :=
  { chain := [], clause }

/-- Open the pending scopes. -/
def close (pending : Pending) : Clause :=
  pending.clause.within pending.chain

end Pending

/-- A level of sibling clauses: bare ones, and scopes with levels of their own. -/
inductive Scope where
  | bare (clause : Clause)
  | group (path : String) (members : List Scope)
  deriving Repr, Inhabited

namespace Scope

/-- Change the group of a path, opening it behind all others if there is none yet. -/
def updateGroup
    (path : String)
    (change : List Scope → List Scope) :
    List Scope → List Scope
  | [] => [.group path (change [])]
  | .bare clause :: rest => .bare clause :: updateGroup path change rest
  | .group other members :: rest =>
      if other = path then .group other (change members) :: rest
      else .group other members :: updateGroup path change rest

/-- Enter a clause into a forest behind the clauses with the same chain. -/
def insert
    (clause : Clause) :
    List String → List Scope → List Scope
  | [], forest => forest ++ [.bare clause]
  | path :: rest, forest => updateGroup path (insert clause rest) forest

/-- The forest of a list of clauses, entered from left to right. -/
def forest (items : List Pending) : List Scope :=
  items.foldl (fun forest item => insert item.clause item.chain forest) []

mutual
/-- A bare clause, or the join of a group inside its scope. -/
def toClause
    (join : List Clause → Clause) :
    Scope → Clause
  | .bare clause => clause
  | .group path members => .nested path (join (toClauses join members))

/-- The clauses of a level. -/
def toClauses
    (join : List Clause → Clause) :
    List Scope → List Clause
  | [] => []
  | scope :: rest => scope.toClause join :: toClauses join rest
end

end Scope

/--
Join siblings whose chains all start with `common`: the pending chain of the
result is `common`, and what lies below it shares scopes.
-/
def Pending.joinBelow
    (join : List Clause → Clause)
    (common : List String)
    (items : List Pending) :
    Pending where
  chain := common
  clause :=
    join (Scope.toClauses join
      (Scope.forest (items.map fun item =>
        { item with chain := item.chain.drop common.length })))

end FacetSearch
