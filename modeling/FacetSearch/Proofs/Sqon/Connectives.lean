import FacetSearch.Proofs.Clause.Alternatives
import FacetSearch.Proofs.Clause.SharedObjects
import FacetSearch.Proofs.Schema.Ancestors
import FacetSearch.Proofs.Sqon.Outcome

namespace FacetSearch.Sqon

/-!
# What compiled combinators say

The filter of an `and` holds of a document when one choice of nested objects
satisfies all children: children that share a nested ancestor are tested on
the same object of it.  The filter of an `or` holds when that of some child
does, and the filter of a `not` when that of its child does not, so that
sharing scopes between alternatives is an economy and nothing else.
-/

open Compiler

/--
The filter of an `and` holds of a document exactly when there is one choice of
an object for every beginning of the chains of the children, each below the
one chosen for the beginning one shorter, such that the clause of every child
holds of the object chosen for its chain.
-/
theorem compile_all_holds_iff_shared_objects
    {registry : Registry}
    {content : List Sqon}
    {children : List Pending}
    (nonempty : content ≠ [])
    (compile : List.Forall₂ (Compiles registry) content children)
    {limit : Nat}
    (fitting : (Sqon.all content).depth ≤ limit) :
    ∃ clause,
      (Sqon.all content).compile registry limit = .ok clause ∧
        ∀ {α : Type} (test : ObjectTest α) (document : DocumentTree α),
          clause.holds test document = true ↔
            ∃ choice : List String → DocumentTree α,
              choice [] = document ∧
                (∀ child ∈ children, ∀ parent path,
                  parent ++ [path] <+: child.chain →
                    choice (parent ++ [path]) ∈ (choice parent).children path) ∧
                ∀ child ∈ children, child.clause.holds test (choice child.chain) = true := by
  have childrenNonempty := outcomes_ne_nil nonempty compile
  refine ⟨(joinSiblings .all children).close, ?_, ?_⟩
  · have compiles : Compiles registry (Sqon.all content) (joinSiblings .all children) :=
      compiles_combine_iff.mpr ⟨children, compile, .conjunction childrenNonempty⟩
    exact compile_eq_ok_iff.mpr ⟨fitting, _, compiles, rfl⟩
  · intro α test document
    refine (holds_close_joinBelow_all childrenNonempty commonChain_siblings_isPrefix).trans ?_
    apply exists_congr
    intro choice
    apply and_congr_right
    intro start
    exact forall₂_and

/-- Women at stage II or III: a condition on donors, and a tree on their diagnoses. -/
def donorConditions : List Sqon := [
  inValues "donors__gender" [.string "female"],
  any [
    inValues "donors__diagnoses__stage" [.string "II"],
    inValues "donors__diagnoses__stage" [.string "III"]]]

/-- What the conditions on donors compile to. -/
def donorOutcomes : List Pending := [
  { chain := ["donors"], clause := .term "donors.gender" [.string "female"] },
  { chain := ["donors", "donors.diagnoses"],
    clause :=
      .or [
        .term "donors.diagnoses.stage" [.string "II"],
        .term "donors.diagnoses.stage" [.string "III"]] }]

/-- One choice of a donor and of a diagnosis of that donor satisfies both conditions. -/
theorem compile_all_holds_iff_shared_donor :
    List.Forall₂ (Compiles caseRegistry) donorConditions donorOutcomes ∧
      ∃ clause,
        (all donorConditions).compile caseRegistry 3 = .ok clause ∧
          ∀ {α : Type} (test : ObjectTest α) (document : DocumentTree α),
            clause.holds test document = true ↔
              ∃ choice : List String → DocumentTree α,
                choice [] = document ∧
                  (∀ child ∈ donorOutcomes, ∀ parent path,
                    parent ++ [path] <+: child.chain →
                      choice (parent ++ [path]) ∈ (choice parent).children path) ∧
                  ∀ child ∈ donorOutcomes,
                    child.clause.holds test (choice child.chain) = true := by
  have compile : List.Forall₂ (Compiles caseRegistry) donorConditions donorOutcomes :=
    .cons ⟨2, 2, .root, by cbv⟩ (.cons ⟨2, 2, .root, by cbv⟩ .nil)
  exact ⟨compile, compile_all_holds_iff_shared_objects (by simp [donorConditions]) compile
    (by decide)⟩

/--
The filter of an `or` of some children holds of a document exactly when the
filter of one of them alone does, and the filter of a `not` exactly when the
filter of its child alone does not.
-/
theorem compile_any_and_negate_hold_iff_alone
    {registry : Registry}
    {limit : Nat} :
    (∀ {content : List Sqon} {clause : Clause},
      content ≠ [] →
      (Sqon.any content).compile registry limit = .ok clause →
      (∀ child ∈ content, ∃ alone, child.compile registry limit = .ok alone) ∧
        ∀ {α : Type} (test : ObjectTest α) (document : DocumentTree α),
          clause.holds test document = true ↔
            ∃ child ∈ content, ∃ alone,
              child.compile registry limit = .ok alone ∧ alone.holds test document = true) ∧
      ∀ {child : Sqon} {clause : Clause},
        (Sqon.negate child).compile registry limit = .ok clause →
        ∃ alone,
          child.compile registry limit = .ok alone ∧
            ∀ {α : Type} (test : ObjectTest α) (document : DocumentTree α),
              clause.holds test document = true ↔ alone.holds test document = false := by
  constructor
  · intro content clause nonempty compiled
    obtain ⟨fitting, pending, compiles, rfl⟩ := compile_eq_ok_iff.mp compiled
    obtain ⟨children, compile, combination⟩ := compiles_combine_iff.mp compiles
    cases combination with
    | emptyOr =>
        exact (outcomes_ne_nil nonempty compile rfl).elim
    | disjunction childrenNonempty =>
        constructor
        · intro child member
          obtain ⟨outcome, -, childCompiles⟩ := exists_right_of_forall₂ compile member
          exact ⟨outcome.close, compile_child fitting member childCompiles⟩
        · intro α test document
          refine
            (holds_close_joinBelow_any childrenNonempty commonChain_siblings_isPrefix).trans ?_
          constructor
          · rintro ⟨outcome, member, holdsAlone⟩
            obtain ⟨child, childMember, childCompiles⟩ := exists_left_of_forall₂ compile member
            exact ⟨child, childMember, outcome.close,
              compile_child fitting childMember childCompiles, holdsAlone⟩
          · rintro ⟨child, childMember, alone, compiledAlone, holdsAlone⟩
            obtain ⟨outcome, member, childCompiles⟩ := exists_right_of_forall₂ compile childMember
            obtain rfl : outcome.close = alone :=
              Except.ok.inj ((compile_child fitting childMember childCompiles).symm.trans
                compiledAlone)
            exact ⟨outcome, member, holdsAlone⟩
  · intro child clause compiled
    obtain ⟨fitting, pending, compiles, rfl⟩ := compile_eq_ok_iff.mp compiled
    obtain ⟨children, compile, combination⟩ := compiles_combine_iff.mp compiles
    cases combination with
    | negation =>
        obtain ⟨childCompiles, -⟩ := List.forall₂_cons.mp compile
        refine ⟨_, compile_child fitting (List.mem_singleton_self child) childCompiles, ?_⟩
        intro α test document
        simp [negation, Pending.bare, Pending.close, Clause.within, Clause.holds]

/-- One scope for both alternatives. -/
def donorAlternatives : Clause :=
  .nested "donors" (.or [
    .term "donors.gender" [.string "female"],
    .nested "donors.diagnoses" (.or [
      .term "donors.diagnoses.stage" [.string "II"],
      .term "donors.diagnoses.stage" [.string "III"]])])

/-- Alternatives that share a scope, and their negation, against the alternatives alone. -/
theorem compile_any_and_negate_hold_iff_donor_alone :
    (any donorConditions).compile caseRegistry 4 = .ok donorAlternatives ∧
      (negate (any donorConditions)).compile caseRegistry 4 = .ok (.not donorAlternatives) ∧
      ∀ {α : Type} (test : ObjectTest α) (document : DocumentTree α),
        (donorAlternatives.holds test document = true ↔
          ∃ child ∈ donorConditions, ∃ alone,
            child.compile caseRegistry 4 = .ok alone ∧ alone.holds test document = true) ∧
        ∃ alone,
          (any donorConditions).compile caseRegistry 4 = .ok alone ∧
            ((Clause.not donorAlternatives).holds test document = true ↔
              alone.holds test document = false) := by
  have compiled : (any donorConditions).compile caseRegistry 4 = .ok donorAlternatives := by
    cbv
  have negated :
      (negate (any donorConditions)).compile caseRegistry 4 = .ok (.not donorAlternatives) := by
    cbv
  refine ⟨compiled, negated, ?_⟩
  intro α test document
  have alternatives :=
    compile_any_and_negate_hold_iff_alone.1 (by simp [donorConditions]) compiled
  obtain ⟨alone, compiledAlone, negation⟩ := compile_any_and_negate_hold_iff_alone.2 negated
  exact ⟨alternatives.2 test document, alone, compiledAlone, negation test document⟩

end FacetSearch.Sqon
