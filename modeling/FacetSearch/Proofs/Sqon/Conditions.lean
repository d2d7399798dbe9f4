import FacetSearch.Clause.Shape
import FacetSearch.Proofs.Clause.Connectives
import FacetSearch.Proofs.Clause.Forest
import FacetSearch.Proofs.Schema.Ancestors
import FacetSearch.Proofs.Sqon.Outcome

namespace FacetSearch

/-!
# What compiled filters test

Joining and scoping move the conditions of a filter about, but make no new
ones: whatever a compiled filter tests about a document, one of its leaves
tests on its own, on a declared field and with values that the field can hold.
-/

namespace Clause

theorem mem_conditionsOf_iff
    {condition : Clause}
    {clauses : List Clause} :
    condition ∈ conditionsOf clauses ↔ ∃ clause ∈ clauses, condition ∈ clause.conditions := by
  induction clauses with
  | nil =>
      simp [conditionsOf]
  | cons clause rest inductionHypothesis =>
      simp [conditionsOf, inductionHypothesis]

theorem conditions_within
    (chain : List String)
    (clause : Clause) :
    (clause.within chain).conditions = clause.conditions := by
  induction chain with
  | nil =>
      rfl
  | cons path rest inductionHypothesis =>
      exact inductionHypothesis

/-- A conjunction has no conditions but those of its clauses. -/
theorem conditions_all_subset
    {clauses : List Clause} :
    (all clauses).conditions ⊆ conditionsOf clauses := by
  intro condition inAll
  rw [mem_conditionsOf_iff]
  unfold all at inAll
  split at inAll
  case h_1 =>
      cases inAll
  case h_2 clause kept =>
      have isKept : clause ∈ clauses.filter fun clause => !clause.isMatchAll := by simp [kept]
      exact ⟨clause, List.mem_of_mem_filter isKept, inAll⟩
  case h_3 =>
      obtain ⟨clause, isKept, inClause⟩ := mem_conditionsOf_iff.mp inAll
      exact ⟨clause, List.mem_of_mem_filter isKept, inClause⟩

/-- A disjunction has no conditions but those of its clauses. -/
theorem conditions_any_subset
    {clauses : List Clause} :
    (any clauses).conditions ⊆ conditionsOf clauses := by
  intro condition inAny
  unfold any at inAny
  split at inAny
  · cases inAny
  split at inAny
  case h_1 =>
      cases inAny
  case h_2 clause _ =>
      exact mem_conditionsOf_iff.mpr ⟨clause, List.mem_singleton_self clause, inAny⟩
  case h_3 =>
      exact inAny

end Clause

/-- What holds of the conditions of every sibling holds of those of their join. -/
theorem Pending.forall_conditions_joinBelow
    {join : List Clause → Clause}
    {holds : Clause → Prop}
    {common : List String}
    {items : List Pending}
    (joined : ∀ clauses, (join clauses).conditions ⊆ Clause.conditionsOf clauses)
    (shared : ∀ item ∈ items, common <+: item.chain)
    (each : ∀ item ∈ items, ∀ condition ∈ item.clause.conditions, holds condition) :
    ∀ condition ∈ (joinBelow join common items).clause.conditions, holds condition := by
  refine @Scope.onClause_joinBelow join
    (fun _ clause => ∀ condition ∈ clause.conditions, holds condition) (fun _ _ => True)
    ?_ (fun _ inside => inside) common items shared ?_
  · intro chain clauses eachHolds condition inJoin
    obtain ⟨clause, member, inClause⟩ := Clause.mem_conditionsOf_iff.mp (joined clauses inJoin)
    exact eachHolds clause member condition inClause
  · intro item member
    exact ⟨fun _ _ _ => trivial, each item member⟩

namespace Sqon

open Compiler

/-- What a leaf can test about a field that it names. -/
inductive Compiler.Tests (field : Field) : Clause → Prop where
  | term
      {values : List Json}
      (holdsValues : field.type.isContainer = false)
      (nonempty : values ≠ [])
      (fitting : ∀ value ∈ values, fits field.type value = true) :
      Tests field (.term field.path values)
  | range
      {lower upper : Option Json}
      (rangeable : field.type.isRangeable = true)
      (bounded : lower.isSome ∨ upper.isSome)
      (lowerFits : ∀ bound ∈ lower, fits field.type bound = true)
      (upperFits : ∀ bound ∈ upper, fits field.type bound = true) :
      Tests field (.range field.path (lower.map .closed) (upper.map .closed))
  | present
      (notNested : field.type ≠ .nested) :
      Tests field (.present field.path)
  | wildcard
      {text : String}
      (isString : field.type.isString = true) :
      Tests field (.wildcard field.path (containing text) true)

section Compile

variable {registry : Registry} {field : Field} {pending : Pending}

theorem Compiler.tests_presence :
    ∀ condition ∈ (presence field).clause.conditions, Tests field condition := by
  intro condition inPresence
  unfold presence at inPresence
  split at inPresence
  case isTrue =>
      cases inPresence
  case isFalse notNested =>
      obtain rfl := List.mem_singleton.mp inPresence
      exact .present notNested

theorem Compiler.conditions_negation
    (pending : Pending) :
    (negation pending).clause.conditions = pending.clause.conditions :=
  Clause.conditions_within pending.chain pending.clause

theorem Compiler.tests_of_leafOutcome
    {leaf : Leaf}
    (outcome : LeafOutcome field leaf pending) :
    ∀ condition ∈ pending.clause.conditions, Tests field condition := by
  intro condition inOutcome
  cases outcome with
  | isIn holdsValues nonempty fitting =>
      obtain rfl := List.mem_singleton.mp inOutcome
      exact .term holdsValues nonempty fitting
  | notIn holdsValues nonempty fitting =>
      rw [conditions_negation] at inOutcome
      obtain rfl := List.mem_singleton.mp inOutcome
      exact .term holdsValues nonempty fitting
  | between rangeable shape bounded lowerFits upperFits =>
      obtain rfl := List.mem_singleton.mp inOutcome
      exact .range rangeable bounded lowerFits upperFits
  | @atLeast name value rangeable fitting =>
      obtain rfl := List.mem_singleton.mp inOutcome
      exact @Tests.range field (some value) none rangeable (by simp) (by simpa) (by simp)
  | @atMost name value rangeable fitting =>
      obtain rfl := List.mem_singleton.mp inOutcome
      exact @Tests.range field none (some value) rangeable (by simp) (by simp) (by simpa)
  | present =>
      exact tests_presence condition inOutcome
  | missing =>
      rw [conditions_negation] at inOutcome
      exact tests_presence condition inOutcome
  | contains isString isText =>
      obtain rfl := List.mem_singleton.mp inOutcome
      exact .wildcard isString

/-- Every condition of a compiled tree is one of a leaf of the tree, compiled on its own. -/
theorem Compiles.exists_leaf_of_condition
    {sqon : Sqon}
    (compiles : Compiles registry sqon pending) :
    ∀ condition ∈ pending.clause.conditions,
      ∃ leaf ∈ sqon.leaves, ∃ outcome,
        Compiles registry (.leaf leaf) outcome ∧ condition ∈ outcome.clause.conditions := by
  induction sqon using inductionOnChildren generalizing pending with
  | leaf leaf =>
      intro condition inOutcome
      exact ⟨leaf, List.mem_singleton_self leaf, pending, compiles, inOutcome⟩
  | combine op content inductionHypothesis =>
      obtain ⟨children, compile, combination⟩ := compiles_combine_iff.mp compiles
      have each :
          ∀ child ∈ children, ∀ condition ∈ child.clause.conditions,
            ∃ leaf ∈ leavesOf content, ∃ outcome,
              Compiles registry (.leaf leaf) outcome ∧
                condition ∈ outcome.clause.conditions := by
        intro child member condition inChild
        obtain ⟨source, sourceMember, sourceCompiles⟩ := exists_left_of_forall₂ compile member
        obtain ⟨leaf, inSource, leafCompiles⟩ :=
          inductionHypothesis source sourceMember sourceCompiles condition inChild
        exact ⟨leaf, mem_leavesOf_iff.mpr ⟨source, sourceMember, inSource⟩, leafCompiles⟩
      cases combination with
      | negation =>
          rw [conditions_negation]
          exact each _ (List.mem_singleton_self _)
      | emptyAnd | emptyOr =>
          intro condition inNone
          cases inNone
      | conjunction =>
          exact Pending.forall_conditions_joinBelow
            (fun _ => Clause.conditions_all_subset) commonChain_siblings_isPrefix each
      | disjunction =>
          exact Pending.forall_conditions_joinBelow
            (fun _ => Clause.conditions_any_subset) commonChain_siblings_isPrefix each

/-- Every condition of a compiled tree is one that a leaf tests about a declared field. -/
theorem Compiles.tests
    {sqon : Sqon}
    (compiles : Compiles registry sqon pending) :
    ∀ condition ∈ pending.clause.conditions, ∃ field ∈ registry.fields, Tests field condition := by
  intro condition inClause
  obtain ⟨leaf, -, outcome, leafCompiles, inOutcome⟩ :=
    compiles.exists_leaf_of_condition condition inClause
  obtain ⟨field, found, isOutcome⟩ := compiles_leaf_iff.mp leafCompiles
  exact ⟨field, Registry.mem_fields_of_field? found,
    tests_of_leafOutcome isOutcome condition inOutcome⟩

/--
Whatever a compiled filter tests, it tests about a declared field, and with
values that the field can hold.
-/
theorem tests_of_compile
    {limit : Nat}
    {sqon : Sqon}
    {clause : Clause}
    (compiled : sqon.compile registry limit = .ok clause) :
    ∀ condition ∈ clause.conditions, ∃ field ∈ registry.fields, Tests field condition := by
  obtain ⟨-, pending, compiles, rfl⟩ := compile_eq_ok_iff.mp compiled
  rw [Pending.close, Clause.conditions_within]
  exact compiles.tests

end Compile

end Sqon

end FacetSearch
