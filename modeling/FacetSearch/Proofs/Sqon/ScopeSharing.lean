import FacetSearch.Proofs.Clause.Inventory
import FacetSearch.Proofs.Sqon.Scoping
import Mathlib.Data.Finset.Card

namespace FacetSearch

/-!
# Siblings share as many scopes as they can

The scopes of a joined conjunction are the groups of a forest, one for every
step of the chains of its members.  In the chains of declared fields a path is
always reached by the same steps, so a conjunction of leaves opens one scope
for every nested field that any of them looks into, and no scope twice.
-/

namespace Registry

variable {registry : Registry}

/-- The chain of a declared field depends on nothing but its path. -/
theorem IsNestedBelow.unique
    {parent parent' : List String}
    {path : String}
    (below : registry.IsNestedBelow parent path)
    (below' : registry.IsNestedBelow parent' path) :
    parent = parent' := by
  obtain ⟨field, declared, rfl, -, rfl⟩ := below
  obtain ⟨field', declared', samePath, -, rfl⟩ := below'
  obtain ⟨spec, -, rfl⟩ := List.mem_map.mp declared
  obtain ⟨spec', -, rfl⟩ := List.mem_map.mp declared'
  have sameSourcePath : spec'.path = spec.path := samePath
  simp only [FieldSpec.resolve, sameSourcePath]

end Registry

namespace Scope

variable {registry : Registry} {items : List Pending}

/-- The conjunction of a forest has a scope for every group, and those inside its items. -/
theorem scopeCount_all_forest :
    (Clause.all (toClauses .all (forest items))).scopeCount =
      (stepsIn (forest items)).length + (items.map fun item => item.clause.scopeCount).sum := by
  have counted :=
    @amount_join_forest Nat _ 1 Clause.scopeCount .all (fun _ => True)
      Clause.isAdditive_scopeCount (fun _ _ => trivial)
      (fun _ => Clause.isAdditive_scopeCount.amount_all _) items (fun _ _ => trivial)
  rwa [Nat.nsmul_eq_mul, Nat.mul_one] at counted

/-- The paths of the groups of a forest are those of the chains of its items. -/
theorem mem_map_stepsIn_forest_iff
    {path : String} :
    path ∈ (stepsIn (forest items)).map Prod.snd ↔ ∃ item ∈ items, path ∈ item.chain := by
  constructor
  · intro isPath
    obtain ⟨⟨parent, path⟩, isStep, rfl⟩ := List.mem_map.mp isPath
    obtain ⟨item, member, begins⟩ := mem_stepsIn_forest_iff.mp isStep
    exact ⟨item, member, begins.subset (by simp)⟩
  · rintro ⟨item, member, inChain⟩
    obtain ⟨parent, rest, split⟩ := List.mem_iff_append.mp inChain
    have begins : parent ++ [path] <+: item.chain := ⟨rest, by simp [split]⟩
    exact List.mem_map.mpr ⟨(parent, path), mem_stepsIn_forest_iff.mpr ⟨item, member, begins⟩, rfl⟩

/-- Where chains are declared, a forest has one group for each path of its items. -/
theorem length_stepsIn_forest
    (declared : ∀ item ∈ items, EveryStep registry.IsNestedBelow item.chain) :
    (stepsIn (forest items)).length = (items.flatMap Pending.chain).toFinset.card := by
  have placed :
      ∀ step ∈ stepsIn (forest items), registry.IsNestedBelow step.1 step.2 := by
    rintro ⟨parent, path⟩ isStep
    obtain ⟨item, member, begins⟩ := mem_stepsIn_forest_iff.mp isStep
    exact declared item member parent path begins
  have pathsNodup : ((stepsIn (forest items)).map Prod.snd).Nodup := by
    refine (nodup_stepsIn_forest items).map_on ?_
    rintro ⟨parent, path⟩ isStep ⟨parent', _⟩ isStep' rfl
    exact congrArg (·, path) ((placed _ isStep).unique (placed _ isStep'))
  have samePaths :
      ((stepsIn (forest items)).map Prod.snd).toFinset =
        (items.flatMap Pending.chain).toFinset := by
    ext path
    rw [List.mem_toFinset, List.mem_toFinset, mem_map_stepsIn_forest_iff, List.mem_flatMap]
  rw [← samePaths, List.toFinset_card_of_nodup pathsNodup, List.length_map]

end Scope

/--
The paths of the nested fields that a leaf looks into: those around its field,
and the field itself if it is a nested one whose presence is asked for.
-/
def Leaf.scopePaths (registry : Registry) (leaf : Leaf) : List String :=
  match registry.field? leaf.field with
  | none => []
  | some field =>
      if leaf.op = .exists ∧ field.type = .nested then field.nested ++ [field.path]
      else field.nested

namespace Sqon

open Compiler

section Compile

variable {registry : Registry}

/-- A leaf that does not negate keeps the scopes that it needs pending, and opens none. -/
theorem scopes_of_leafOutcome
    {field : Field}
    {leaf : Leaf}
    {pending : Pending}
    (found : registry.field? leaf.field = some field)
    (positive : leaf.op ≠ .notIn ∧ leaf.op ≠ .missing)
    (outcome : LeafOutcome field leaf pending) :
    pending.chain = leaf.scopePaths registry ∧ pending.clause.scopeCount = 0 := by
  rw [Leaf.scopePaths, found]
  cases outcome with
  | isIn | between | atLeast | atMost | contains =>
      exact ⟨rfl, rfl⟩
  | present =>
      by_cases nestedType : field.type = .nested
      · simp [presence, nestedType, Clause.scopeCount]
      · simp [presence, nestedType, onField, Clause.scopeCount]
  | notIn =>
      exact (positive.1 rfl).elim
  | missing =>
      exact (positive.2 rfl).elim

/-- The filter of an `and` is the join of a forest of what its children compile to. -/
theorem close_of_combination_and
    {children : List Pending}
    {pending : Pending}
    (combination : Combination .and children pending) :
    pending.close = .all (Scope.toClauses .all (Scope.forest children)) := by
  cases combination with
  | emptyAnd =>
      rfl
  | conjunction nonempty =>
      exact Scope.close_joinBelow Clause.all_singleton nonempty commonChain_siblings_isPrefix

/-- Leaves that do not negate have together the scopes of each pending, and none open. -/
theorem scopes_of_leaves
    {leaves : List Leaf}
    {children : List Pending}
    (positive : ∀ leaf ∈ leaves, leaf.op ≠ .notIn ∧ leaf.op ≠ .missing)
    (compile : List.Forall₂ (Compiles registry) (leaves.map .leaf) children) :
    children.flatMap Pending.chain = leaves.flatMap (Leaf.scopePaths registry) ∧
      (children.map fun child => child.clause.scopeCount).sum = 0 := by
  induction leaves generalizing children with
  | nil =>
      obtain rfl := List.forall₂_nil_left_iff.mp compile
      exact ⟨rfl, rfl⟩
  | cons leaf rest inductionHypothesis =>
      obtain ⟨child, others, compiles, restCompile, rfl⟩ := List.forall₂_cons_left_iff.mp compile
      obtain ⟨field, found, outcome⟩ := compiles_leaf_iff.mp compiles
      rw [List.forall_mem_cons] at positive
      obtain ⟨sameChain, noneOpen⟩ := scopes_of_leafOutcome found positive.1 outcome
      obtain ⟨sameChains, noneOpenInRest⟩ := inductionHypothesis positive.2 restCompile
      constructor
      · rw [List.flatMap_cons, List.flatMap_cons, sameChain, sameChains]
      · rw [List.map_cons, List.sum_cons, noneOpen, noneOpenInRest]

/--
An `and` of leaves that do not negate opens one scope for each nested field
that one of them looks into.
-/
theorem scopeCount_of_compile_all
    {limit : Nat}
    {leaves : List Leaf}
    {clause : Clause}
    (positive : ∀ leaf ∈ leaves, leaf.op ≠ .notIn ∧ leaf.op ≠ .missing)
    (compiled : (Sqon.all (leaves.map .leaf)).compile registry limit = .ok clause) :
    clause.scopeCount = (leaves.flatMap (Leaf.scopePaths registry)).toFinset.card := by
  obtain ⟨-, pending, compiles, rfl⟩ := compile_eq_ok_iff.mp compiled
  obtain ⟨children, compile, combination⟩ := compiles_combine_iff.mp compiles
  obtain ⟨sameChains, noneOpen⟩ := scopes_of_leaves positive compile
  have declared : ∀ child ∈ children, EveryStep registry.IsNestedBelow child.chain := by
    intro child member
    obtain ⟨source, -, sourceCompiles⟩ := exists_left_of_forall₂ compile member
    exact sourceCompiles.isScoped.steps
  rw [close_of_combination_and combination, Scope.scopeCount_all_forest, noneOpen, Nat.add_zero,
    Scope.length_stepsIn_forest declared, sameChains]

end Compile

/-- Tests of donors and of their diagnoses, in turns with a test of the case itself. -/
def donorTests : List Leaf := [
  { op := .isIn, field := "donors__gender", value := .string "female" },
  { op := .isIn, field := "status", value := .string "open" },
  { op := .exists, field := "donors__diagnoses", value := .null },
  { op := .atLeast, field := "donors__age", value := .int 40 },
  { op := .isIn, field := "donors__diagnoses__stage", value := .string "II" },
  { op := .exists, field := "donors", value := .null }]

/-- One scope for donors and one for diagnoses, however the tests are scattered. -/
def donorTestsClause : Clause :=
  .and [
    .nested "donors" (.and [
      .term "donors.gender" [.string "female"],
      .nested "donors.diagnoses" (.term "donors.diagnoses.stage" [.string "II"]),
      .range "donors.age" (some (.closed (.int 40))) none]),
    .term "status" [.string "open"]]

theorem scopeCount_of_compile_donorTests :
    (∀ leaf ∈ donorTests, leaf.op ≠ .notIn ∧ leaf.op ≠ .missing) ∧
      (Sqon.all (donorTests.map .leaf)).compile caseRegistry 2 = .ok donorTestsClause ∧
      donorTestsClause.scopeCount =
        (donorTests.flatMap (Leaf.scopePaths caseRegistry)).toFinset.card := by
  have positive : ∀ leaf ∈ donorTests, leaf.op ≠ .notIn ∧ leaf.op ≠ .missing := by
    simp [donorTests]
  have compiled :
      (Sqon.all (donorTests.map .leaf)).compile caseRegistry 2 = .ok donorTestsClause := by
    cbv
  exact ⟨positive, compiled, scopeCount_of_compile_all positive compiled⟩

end Sqon

end FacetSearch
