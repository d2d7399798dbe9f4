import FacetSearch.Proofs.Clause.Inventory
import FacetSearch.Proofs.Sqon.Conditions
import FacetSearch.Proofs.Sqon.NormalForm

namespace FacetSearch

/-!
# No condition is lost or doubled

However siblings are moved into shared scopes and single members are unwrapped,
a compiled filter has exactly the conditions that the leaves of its tree have
one by one, and a negation for everything that negates.  The exceptions are
trees that match everything somewhere: an empty combinator, and a leaf that
only asks whether a nested field has objects.
-/

/-- The operators that negate a test. -/
def Operator.isNegative : Operator → Bool
  | .notIn | .missing => true
  | _ => false

namespace Leaf

/-- The conditions that a leaf compiles to on its own. -/
def conditions (registry : Registry) (leaf : Leaf) : List Clause :=
  match (Sqon.leaf leaf).compile registry 1 with
  | .ok clause => clause.conditions
  | .error _ => []

/-- A leaf asks whether a nested field has objects. -/
def AsksForObjects (registry : Registry) (leaf : Leaf) : Prop :=
  leaf.op.isPresence = true ∧
    ∃ field, registry.field? leaf.field = some field ∧ field.type = .nested

end Leaf

namespace Sqon

open Compiler

mutual
/-- Every combinator of a tree has a child. -/
def IsFilled : Sqon → Prop
  | .leaf _ => True
  | .combine _ content => content ≠ [] ∧ AreFilled content

/-- Every combinator in a list of trees has a child. -/
def AreFilled : List Sqon → Prop
  | [] => True
  | child :: rest => child.IsFilled ∧ AreFilled rest
end

mutual
/-- The number of `not` nodes of a tree. -/
def notCount : Sqon → Nat
  | .leaf _ => 0
  | .combine op content => (if op = .not then 1 else 0) + notCounts content

/-- The number of `not` nodes in a list of trees. -/
def notCounts : List Sqon → Nat
  | [] => 0
  | child :: rest => child.notCount + notCounts rest
end

theorem areFilled_iff
    {content : List Sqon} :
    AreFilled content ↔ ∀ child ∈ content, child.IsFilled := by
  induction content with
  | nil =>
      simp [AreFilled]
  | cons child rest inductionHypothesis =>
      rw [AreFilled, inductionHypothesis, List.forall_mem_cons]

section Leaves

/-- Closing scopes negates nothing. -/
theorem negationCount_close
    (pending : Pending) :
    pending.close.negationCount = pending.clause.negationCount := by
  have closed := Clause.isAdditive_negationCount.amount_within pending.chain pending.clause
  rwa [nsmul_zero, Nat.zero_add] at closed

theorem negationCount_negation
    (pending : Pending) :
    (negation pending).clause.negationCount = pending.clause.negationCount + 1 :=
  congrArg Nat.succ (negationCount_close pending)

variable {registry : Registry} {field : Field} {leaf : Leaf} {pending : Pending}

/-- On its own, a leaf has the conditions of its outcome. -/
theorem conditions_of_compiles_leaf
    (compiles : Compiles registry (.leaf leaf) pending) :
    leaf.conditions registry = pending.clause.conditions := by
  have compiled : (Sqon.leaf leaf).compile registry 1 = .ok pending.close :=
    compile_eq_ok_iff.mpr ⟨Nat.le_refl _, pending, compiles, rfl⟩
  rw [Leaf.conditions, compiled]
  exact Clause.conditions_within pending.chain pending.clause

/-- What a leaf restricts, it restricts by one condition, negated if its operator is negative. -/
structure Compiler.IsSingle (negative : Bool) (pending : Pending) : Prop where
  restricts : pending.clause.isMatchAll = false
  condition : ∃ condition, pending.clause.conditions = [condition]
  negations : pending.clause.negationCount = if negative then 1 else 0

theorem Compiler.IsSingle.negation
    (single : IsSingle false pending) :
    IsSingle true (negation pending) where
  restricts := rfl
  condition := by
    rw [conditions_negation]
    exact single.condition
  negations := by
    rw [negationCount_negation, single.negations]
    rfl

theorem Compiler.isSingle_presence
    (notNested : field.type ≠ .nested) :
    IsSingle false (presence field) := by
  rw [presence, if_neg notNested]
  exact ⟨rfl, ⟨_, rfl⟩, rfl⟩

theorem isSingle_leafOutcome
    (outcome : LeafOutcome field leaf pending)
    (notNested : leaf.op.isPresence = true → field.type ≠ .nested) :
    IsSingle leaf.op.isNegative pending := by
  cases outcome with
  | isIn | between | atLeast | atMost | contains =>
      exact ⟨rfl, ⟨_, rfl⟩, rfl⟩
  | notIn =>
      exact IsSingle.negation ⟨rfl, ⟨_, rfl⟩, rfl⟩
  | present =>
      exact isSingle_presence (notNested rfl)
  | missing =>
      exact (isSingle_presence (notNested rfl)).negation

/-- A leaf that does not ask for objects compiles to a single condition. -/
theorem Compiles.isSingle
    (compiles : Compiles registry (.leaf leaf) pending)
    (asksForNone : ¬ leaf.AsksForObjects registry) :
    IsSingle leaf.op.isNegative pending := by
  obtain ⟨field, found, outcome⟩ := compiles_leaf_iff.mp compiles
  apply isSingle_leafOutcome outcome
  intro isPresence nestedType
  exact asksForNone ⟨isPresence, field, found, nestedType⟩

end Leaves

/-- An outcome has the conditions of the leaves of its tree, and a negation for all that negates. -/
structure Conserves (registry : Registry) (sqon : Sqon) (pending : Pending) : Prop where
  restricts : pending.clause.isMatchAll = false
  single : ∀ leaf ∈ sqon.leaves, ∃ condition, leaf.conditions registry = [condition]
  conditions :
    (pending.clause.conditions : Multiset Clause) =
      (sqon.leaves.flatMap (Leaf.conditions registry) : Multiset Clause)
  negations :
    pending.clause.negationCount =
      sqon.notCount + sqon.leaves.countP fun leaf => leaf.op.isNegative

section Siblings

variable {registry : Registry} {content : List Sqon} {children : List Pending}

/-- Siblings have together what their trees have together. -/
theorem conserves_siblings
    (conserve : List.Forall₂ (Conserves registry) content children) :
    (∀ leaf ∈ leavesOf content, ∃ condition, leaf.conditions registry = [condition]) ∧
      (children.map fun child => (child.clause.conditions : Multiset Clause)).sum =
        ((leavesOf content).flatMap (Leaf.conditions registry) : Multiset Clause) ∧
      (children.map fun child => child.clause.negationCount).sum =
        notCounts content + (leavesOf content).countP fun leaf => leaf.op.isNegative := by
  induction conserve with
  | nil =>
      exact ⟨by simp [leavesOf], rfl, rfl⟩
  | @cons source child rest others conserves _ inductionHypothesis =>
      obtain ⟨single, sameConditions, sameNegations⟩ := inductionHypothesis
      refine ⟨?_, ?_, ?_⟩
      · rw [leavesOf, List.forall_mem_append]
        exact ⟨conserves.single, single⟩
      · rw [List.map_cons, List.sum_cons, sameConditions, conserves.conditions, leavesOf,
          List.flatMap_append, Multiset.coe_add]
      · rw [List.map_cons, List.sum_cons, sameNegations, conserves.negations, notCounts, leavesOf,
          List.countP_append]
        omega

/-- Joining siblings conserves what they have. -/
theorem conserves_joinSiblings
    {op : Combinator}
    (positive : op ≠ .not)
    {join : List Clause → Clause}
    (nonempty : children ≠ [])
    (restricts :
      ∀ {clauses}, clauses ≠ [] → (∀ clause ∈ clauses, clause.isMatchAll = false) →
        (join clauses).isMatchAll = false)
    (joined :
      ∀ {M : Type} [AddCommMonoid M] {amount : Clause → M}, Clause.IsAdditive 0 amount →
        ∀ {clauses}, (∀ clause ∈ clauses, clause.isMatchAll = false) →
          amount (join clauses) = (clauses.map amount).sum)
    (conserve : List.Forall₂ (Conserves registry) content children) :
    Conserves registry (.combine op content) (joinSiblings join children) := by
  have each : ∀ child ∈ children, child.clause.isMatchAll = false := by
    intro child member
    obtain ⟨source, -, conserves⟩ := exists_left_of_forall₂ conserve member
    exact conserves.restricts
  obtain ⟨single, sameConditions, sameNegations⟩ := conserves_siblings conserve
  constructor
  · exact Pending.isMatchAll_joinBelow nonempty restricts each
  · exact single
  · exact (Pending.amount_joinBelow Clause.isAdditive_conditions
      (joined Clause.isAdditive_conditions) each).trans sameConditions
  · rw [notCount, if_neg positive, Nat.zero_add]
    exact (Pending.amount_joinBelow Clause.isAdditive_negationCount
      (joined Clause.isAdditive_negationCount) each).trans sameNegations

end Siblings

section Compile

variable {registry : Registry} {sqon : Sqon} {pending : Pending}

/-- Compiling a tree that asks for no objects and is filled throughout conserves what it has. -/
theorem Compiles.conserves
    (filled : sqon.IsFilled)
    (asksForNone : ∀ leaf ∈ sqon.leaves, ¬ leaf.AsksForObjects registry)
    (compiles : Compiles registry sqon pending) :
    Conserves registry sqon pending := by
  induction sqon using inductionOnChildren generalizing pending with
  | leaf leaf =>
      have single := compiles.isSingle (asksForNone leaf (List.mem_singleton_self leaf))
      constructor
      · exact single.restricts
      · rw [leaves, List.forall_mem_singleton, conditions_of_compiles_leaf compiles]
        exact single.condition
      · rw [leaves, List.flatMap_singleton, conditions_of_compiles_leaf compiles]
      · rw [single.negations, notCount, leaves, List.countP_singleton, Nat.zero_add]
  | combine op content inductionHypothesis =>
      obtain ⟨contentNonempty, childrenFilled⟩ := filled
      obtain ⟨children, compile, combination⟩ := compiles_combine_iff.mp compiles
      have childrenConserve :
          ∀ child ∈ content, ∀ outcome,
            Compiles registry child outcome → Conserves registry child outcome := by
        intro child member outcome childCompiles
        refine inductionHypothesis child member (areFilled_iff.mp childrenFilled child member) ?_
          childCompiles
        intro leaf isLeaf
        exact asksForNone leaf (mem_leavesOf_iff.mpr ⟨child, member, isLeaf⟩)
      have conserve : List.Forall₂ (Conserves registry) content children :=
        ((List.forall₂_and_left _ _).mpr ⟨childrenConserve, compile⟩).imp
          fun _ _ conserves => conserves.1 _ conserves.2
      cases combination with
      | emptyAnd | emptyOr =>
          exact (outcomes_ne_nil contentNonempty compile rfl).elim
      | conjunction nonempty =>
          exact conserves_joinSiblings (by decide) nonempty Clause.isMatchAll_all
            (fun additive _ _ => additive.amount_all _) conserve
      | disjunction nonempty =>
          exact conserves_joinSiblings (by decide) nonempty Clause.isMatchAll_any
            (fun additive _ => additive.amount_any) conserve
      | @negation child =>
          obtain ⟨single, sameConditions, sameNegations⟩ := conserves_siblings conserve
          rw [List.map_singleton, List.sum_singleton] at sameConditions sameNegations
          constructor
          · rfl
          · exact single
          · rw [conditions_negation, sameConditions, leaves]
          · rw [negationCount_negation, sameNegations, notCount, if_pos rfl, leaves]
            omega

/--
A compiled filter has the conditions that the leaves of its tree have one by
one, as often as they have them, each leaf a single one; and it has a negation
for every `not` node and for every leaf with a negative operator.  This is so
for every tree in which each combinator has a child and no leaf asks whether a
nested field has objects.
-/
theorem compile_conserves_conditions
    {limit : Nat}
    {clause : Clause}
    (filled : sqon.IsFilled)
    (asksForNone : ∀ leaf ∈ sqon.leaves, ¬ leaf.AsksForObjects registry)
    (compiled : sqon.compile registry limit = .ok clause) :
    (∀ leaf ∈ sqon.leaves, ∃ condition, leaf.conditions registry = [condition]) ∧
      clause.conditions.Perm (sqon.leaves.flatMap (Leaf.conditions registry)) ∧
      clause.negationCount =
        sqon.notCount + sqon.leaves.countP fun leaf => leaf.op.isNegative := by
  obtain ⟨-, pending, compiles, rfl⟩ := compile_eq_ok_iff.mp compiled
  have conserves := compiles.conserves filled asksForNone
  refine ⟨conserves.single, ?_, ?_⟩
  · rw [Pending.close, Clause.conditions_within]
    exact Multiset.coe_eq_coe.mp conserves.conditions
  · rw [negationCount_close, conserves.negations]

end Compile

/-- Open cases of men of known age, unless a woman or somebody of 40 is among the donors. -/
def openCasesOfMenOnly : Sqon :=
  .all [
    inValues "donors__gender" [.string "male"],
    inValues "status" [.string "open"],
    negate
      (.any [
        inValues "donors__gender" [.string "female"],
        negate (test .notIn "donors__age" (.int 40))]),
    present "donors__age"]

/-- The conditions on men share a scope; the others stay as they were written. -/
def openCasesOfMenOnlyClause : Clause :=
  .and [
    .nested "donors" (.and [.term "donors.gender" [.string "male"], .present "donors.age"]),
    .term "status" [.string "open"],
    .not (.or [
      .nested "donors" (.term "donors.gender" [.string "female"]),
      .not (.not (.nested "donors" (.term "donors.age" [.int 40])))])]

/-- Five leaves make five conditions, and two nodes and one leaf make three negations. -/
theorem compile_conserves_conditions_of_openCasesOfMenOnly :
    openCasesOfMenOnly.compile caseRegistry 5 = .ok openCasesOfMenOnlyClause ∧
      (∀ leaf ∈ openCasesOfMenOnly.leaves,
        ∃ condition, leaf.conditions caseRegistry = [condition]) ∧
      openCasesOfMenOnlyClause.conditions.Perm
        (openCasesOfMenOnly.leaves.flatMap (Leaf.conditions caseRegistry)) ∧
      openCasesOfMenOnlyClause.negationCount =
        openCasesOfMenOnly.notCount +
          openCasesOfMenOnly.leaves.countP fun leaf => leaf.op.isNegative := by
  have compiled : openCasesOfMenOnly.compile caseRegistry 5 = .ok openCasesOfMenOnlyClause := by
    cbv
  have filled : openCasesOfMenOnly.IsFilled := by
    simp [openCasesOfMenOnly, all, any, negate, inValues, present, test, IsFilled, AreFilled]
  have ageType : ∀ field, caseRegistry.field? "donors__age" = some field → field.type ≠ .nested := by
    rintro field ⟨⟩
    decide
  have asksForNone :
      ∀ leaf ∈ openCasesOfMenOnly.leaves, ¬ leaf.AsksForObjects caseRegistry := by
    simp only [openCasesOfMenOnly, all, any, negate, inValues, present, test, leaves, leavesOf]
    simpa [Leaf.AsksForObjects, Operator.isPresence] using ageType
  exact ⟨compiled, compile_conserves_conditions filled asksForNone compiled⟩

end Sqon

end FacetSearch
