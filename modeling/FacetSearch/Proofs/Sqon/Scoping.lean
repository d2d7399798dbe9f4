import FacetSearch.Clause.Shape
import FacetSearch.Proofs.Schema.Ancestors
import FacetSearch.Proofs.Sqon.Outcome

namespace FacetSearch

/-!
# Compiled filters are well scoped

A pending clause is well scoped when its chain consists of declared nested
fields, each under those before it, and the clause is well scoped inside the
scopes of that chain.  Leaves are, combining keeps it, and closing the pending
scopes of a whole tree turns it into a clause that is well scoped by itself.
-/

namespace Clause

variable {registry : Registry} {chain : List String}

theorem areScoped_iff
    {clauses : List Clause} :
    AreScoped registry chain clauses ↔ ∀ clause ∈ clauses, clause.IsScoped registry chain := by
  induction clauses with
  | nil =>
      simp [AreScoped]
  | cons clause rest inductionHypothesis =>
      simp only [AreScoped, inductionHypothesis, List.forall_mem_cons]

/-- A conjunction has its scopes right when its members do. -/
theorem isScoped_all
    {clauses : List Clause}
    (placed : ∀ clause ∈ clauses, clause.IsScoped registry chain) :
    (all clauses).IsScoped registry chain := by
  have keptPlaced :
      ∀ clause ∈ clauses.filter (fun clause => !clause.isMatchAll),
        clause.IsScoped registry chain :=
    fun clause member => placed clause (List.mem_filter.mp member).1
  unfold all
  split
  case h_1 =>
      trivial
  case h_2 clause kept =>
      exact keptPlaced clause (by simp [kept])
  case h_3 =>
      exact areScoped_iff.mpr keptPlaced

theorem isScoped_any
    {clauses : List Clause}
    (placed : ∀ clause ∈ clauses, clause.IsScoped registry chain) :
    (any clauses).IsScoped registry chain := by
  unfold any
  split
  · trivial
  · split
    case h_1 =>
        trivial
    case h_2 clause _ =>
        exact placed clause (by simp)
    case h_3 =>
        exact areScoped_iff.mpr placed

/-- A clause stays well scoped when the scopes that it stands in are opened. -/
theorem isScoped_within
    {opened : List String}
    {clause : Clause}
    (steps : EveryStep (fun parent => registry.IsNestedBelow (chain ++ parent)) opened)
    (placed : clause.IsScoped registry (chain ++ opened)) :
    (clause.within opened).IsScoped registry chain := by
  induction opened generalizing chain with
  | nil =>
      simpa [within] using placed
  | cons path rest inductionHypothesis =>
      obtain ⟨declared, later⟩ := everyStep_cons.mp steps
      have unfolded : clause.within (path :: rest) = .nested path (clause.within rest) := rfl
      rw [unfolded, IsScoped]
      refine ⟨by simpa [Registry.IsNestedBelow] using declared, inductionHypothesis ?_ ?_⟩
      · simpa using later
      · simpa using placed

end Clause

namespace Pending

/-- The chain of a pending clause is declared, and the clause is well scoped inside it. -/
structure IsScoped (registry : Registry) (pending : Pending) : Prop where
  steps : EveryStep registry.IsNestedBelow pending.chain
  clauseScoped : pending.clause.IsScoped registry pending.chain

variable {registry : Registry}

/-- Closing the pending scopes leaves a clause that is well scoped by itself. -/
theorem IsScoped.close
    {pending : Pending}
    (placed : pending.IsScoped registry) :
    pending.close.IsScoped registry [] :=
  Clause.isScoped_within placed.steps placed.clauseScoped

/-- Joining well scoped siblings below a chain that all of them start with is well scoped. -/
theorem isScoped_joinBelow
    {join : List Clause → Clause}
    (joinPlaced :
      ∀ {chain clauses}, (∀ clause ∈ clauses, clause.IsScoped registry chain) →
        (join clauses).IsScoped registry chain)
    {common : List String}
    {items : List Pending}
    (nonempty : items ≠ [])
    (shared : ∀ item ∈ items, common <+: item.chain)
    (placed : ∀ item ∈ items, item.IsScoped registry) :
    (joinBelow join common items).IsScoped registry := by
  constructor
  · obtain ⟨item, member⟩ := List.exists_mem_of_ne_nil items nonempty
    obtain ⟨rest, split⟩ := shared item member
    have steps := (placed item member).steps
    rw [← split] at steps
    exact (everyStep_append.mp steps).1
  · refine @Scope.onClause_joinBelow join (fun chain clause => clause.IsScoped registry chain)
      registry.IsNestedBelow joinPlaced ?_ common items shared ?_
    · intro chain path clause declared inside
      exact ⟨declared, inside⟩
    · intro item member
      exact ⟨(placed item member).steps, (placed item member).clauseScoped⟩

end Pending

namespace Sqon

open Compiler

variable {registry : Registry}

theorem isScoped_onField
    {field : Field}
    {condition : Clause}
    (declared : field ∈ registry.fields)
    (placed : condition.IsScoped registry field.nested) :
    (onField field condition).IsScoped registry :=
  ⟨Registry.everyStep_nested declared, placed⟩

/-- A negation closes the scopes of its operand, and opens none. -/
theorem isScoped_negation
    {pending : Pending}
    (placed : pending.IsScoped registry) :
    (negation pending).IsScoped registry :=
  ⟨everyStep_nil, rfl, placed.close⟩

/-- The presence of a declared field is well scoped, that of a nested field in its own scope. -/
theorem isScoped_presence
    {field : Field}
    (declared : field ∈ registry.fields) :
    (presence field).IsScoped registry := by
  unfold presence
  split
  case isTrue nestedType =>
      refine ⟨everyStep_append.mpr ⟨Registry.everyStep_nested declared, ?_⟩, trivial⟩
      refine everyStep_cons.mpr ⟨?_, everyStep_nil⟩
      exact ⟨field, declared, rfl, nestedType, (List.append_nil field.nested).symm⟩
  case isFalse =>
      exact isScoped_onField declared ⟨field, declared, rfl, rfl⟩

/-- Every outcome of a leaf on a declared field is well scoped. -/
theorem isScoped_leafOutcome
    {field : Field}
    {condition : Leaf}
    {pending : Pending}
    (declared : field ∈ registry.fields)
    (outcome : LeafOutcome field condition pending) :
    pending.IsScoped registry := by
  have onPath : Clause.IsDeclaredAt registry field.nested field.path :=
    ⟨field, declared, rfl, rfl⟩
  cases outcome with
  | isIn | between | atLeast | atMost | contains =>
      exact isScoped_onField declared onPath
  | notIn =>
      exact isScoped_negation (isScoped_onField declared onPath)
  | present =>
      exact isScoped_presence declared
  | missing =>
      exact isScoped_negation (isScoped_presence declared)

/-- Combining keeps pending clauses well scoped. -/
theorem isScoped_combination
    {op : Combinator}
    {children : List Pending}
    {pending : Pending}
    (combination : Combination op children pending)
    (placed : ∀ child ∈ children, child.IsScoped registry) :
    pending.IsScoped registry := by
  cases combination with
  | negation =>
      exact isScoped_negation (placed _ (by simp))
  | emptyAnd | emptyOr =>
      exact ⟨everyStep_nil, trivial⟩
  | conjunction nonempty =>
      exact Pending.isScoped_joinBelow Clause.isScoped_all nonempty
        commonChain_siblings_isPrefix placed
  | disjunction nonempty =>
      exact Pending.isScoped_joinBelow Clause.isScoped_any nonempty
        commonChain_siblings_isPrefix placed

/-- Every tree that compiles has a well scoped outcome. -/
theorem Compiles.isScoped
    {sqon : Sqon}
    {pending : Pending}
    (compiles : Compiles registry sqon pending) :
    pending.IsScoped registry := by
  induction sqon using inductionOnChildren generalizing pending with
  | leaf condition =>
      obtain ⟨field, found, outcome⟩ := compiles_leaf_iff.mp compiles
      exact isScoped_leafOutcome (Registry.mem_fields_of_field? found) outcome
  | combine op content inductionHypothesis =>
      obtain ⟨children, compile, combination⟩ := compiles_combine_iff.mp compiles
      apply isScoped_combination combination
      intro child member
      obtain ⟨source, sourceMember, sourceCompiles⟩ := exists_left_of_forall₂ compile member
      exact inductionHypothesis source sourceMember sourceCompiles

/--
In every compiled filter the scopes around a condition are those of its field,
the scopes around a scope are those of the nested field at its path, and no
negation stands in a scope.
-/
theorem compile_isScoped
    {limit : Nat}
    {sqon : Sqon}
    {clause : Clause}
    (compiled : sqon.compile registry limit = .ok clause) :
    clause.IsScoped registry [] := by
  obtain ⟨-, pending, compiles, rfl⟩ := compile_eq_ok_iff.mp compiled
  exact compiles.isScoped.close

/-- Cases with a woman at stage II, and with no diagnosis listed for any donor. -/
def donorsFilter : Sqon :=
  .all [
    .all [
      inValues "donors__gender" [.string "female"],
      inValues "donors__diagnoses__stage" [.string "II"]],
    absent "donors__diagnoses"]

/-- One scope for both conditions, a deeper one inside it, and the negation outside. -/
def donorsClause : Clause :=
  .and [
    .nested "donors" (.and [
      .term "donors.gender" [.string "female"],
      .nested "donors.diagnoses" (.term "donors.diagnoses.stage" [.string "II"])]),
    .not (.nested "donors" (.nested "donors.diagnoses" .matchAll))]

theorem compile_isScoped_donors :
    donorsFilter.compile caseRegistry 3 = .ok donorsClause ∧
      donorsClause.IsScoped caseRegistry [] := by
  have compiled : donorsFilter.compile caseRegistry 3 = .ok donorsClause := by cbv
  exact ⟨compiled, compile_isScoped compiled⟩

end Sqon

end FacetSearch
