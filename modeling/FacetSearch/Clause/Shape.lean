import FacetSearch.Clause.Basic
import FacetSearch.Schema.Registry

namespace FacetSearch.Clause

/-!
# The shape of clauses

The conditions on single fields that a clause is built from, the form in which
compiled clauses come, and what it means for the scopes of a clause to be those
that a registry asks for.
-/

mutual
/-- The conditions on single fields in a clause, from left to right. -/
def conditions : Clause → List Clause
  | .matchAll => []
  | .and clauses => conditionsOf clauses
  | .or clauses => conditionsOf clauses
  | .not clause => clause.conditions
  | .nested _ clause => clause.conditions
  | .term field values => [.term field values]
  | .range field lower upper => [.range field lower upper]
  | .present field => [.present field]
  | .wildcard field pattern caseInsensitive => [.wildcard field pattern caseInsensitive]

/-- The conditions in a list of clauses. -/
def conditionsOf : List Clause → List Clause
  | [] => []
  | clause :: rest => clause.conditions ++ conditionsOf rest
end

mutual
/-- The number of negations in a clause. -/
def negationCount : Clause → Nat
  | .and clauses => negationCounts clauses
  | .or clauses => negationCounts clauses
  | .not clause => clause.negationCount + 1
  | .nested _ clause => clause.negationCount
  | .matchAll | .term .. | .range .. | .present .. | .wildcard .. => 0

/-- The number of negations in a list of clauses. -/
def negationCounts : List Clause → Nat
  | [] => 0
  | clause :: rest => clause.negationCount + negationCounts rest
end

mutual
/--
Conjunctions and disjunctions have two members or more, none of which matches
everything; terms have a value and ranges a bound.
-/
def IsNormal : Clause → Prop
  | .and clauses => 2 ≤ clauses.length ∧ AreNormalParts clauses
  | .or clauses => 2 ≤ clauses.length ∧ AreNormalParts clauses
  | .not clause => clause.IsNormal
  | .nested _ clause => clause.IsNormal
  | .term _ values => values ≠ []
  | .range _ lower upper => lower.isSome ∨ upper.isSome
  | .matchAll | .present _ | .wildcard .. => True

/-- Every clause of a list is normal, and none matches everything. -/
def AreNormalParts : List Clause → Prop
  | [] => True
  | clause :: rest => (clause.isMatchAll = false ∧ clause.IsNormal) ∧ AreNormalParts rest
end

/-- A path belongs to a declared field whose chain is the given one. -/
def IsDeclaredAt (registry : Registry) (chain : List String) (path : String) : Prop :=
  ∃ field ∈ registry.fields, field.path = path ∧ field.nested = chain

mutual
/--
Inside the scopes of a chain, every condition is on a declared field with that
chain, every scope is that of a declared nested field with that chain, and
there is no negation unless the chain is empty.
-/
def IsScoped (registry : Registry) (chain : List String) : Clause → Prop
  | .matchAll => True
  | .and clauses => AreScoped registry chain clauses
  | .or clauses => AreScoped registry chain clauses
  | .not clause => chain = [] ∧ clause.IsScoped registry chain
  | .nested path clause =>
      (∃ field ∈ registry.fields,
        field.path = path ∧ field.type = .nested ∧ field.nested = chain) ∧
        clause.IsScoped registry (chain ++ [path])
  | .term field _ => IsDeclaredAt registry chain field
  | .range field _ _ => IsDeclaredAt registry chain field
  | .present field => IsDeclaredAt registry chain field
  | .wildcard field _ _ => IsDeclaredAt registry chain field

/-- Every clause of a list has its scopes right inside those of a chain. -/
def AreScoped (registry : Registry) (chain : List String) : List Clause → Prop
  | [] => True
  | clause :: rest => clause.IsScoped registry chain ∧ AreScoped registry chain rest
end

end FacetSearch.Clause
