import FacetSearch.Proofs.Facet.Planning
import FacetSearch.Proofs.Sqon.Joining

namespace FacetSearch

/-!
# Facets and the selections made on them

A facet offers the values that were not chosen as well, so nothing that is
selected on its own field may change what it counts.  It does not: the filter
that a facet is planned against has lost every leaf on its field, together with
the combinators that this empties, and an `and` that is left with one single
child compiles to what that child compiles to.
-/

namespace Sqon

open Compiler

/-- Two trees that differ in nothing but the operators and values of leaves on a field. -/
inductive AgreeOutside (field : String) : Sqon → Sqon → Prop where
  | unchanged
      (condition : Leaf) :
      AgreeOutside field (.leaf condition) (.leaf condition)
  | reselected
      {condition other : Leaf}
      (onField : condition.field = field)
      (otherOnField : other.field = field) :
      AgreeOutside field (.leaf condition) (.leaf other)
  | combine
      {op : Combinator}
      {content others : List Sqon}
      (children : List.Forall₂ (AgreeOutside field) content others) :
      AgreeOutside field (.combine op content) (.combine op others)

section Pruning

variable {field : String}

theorem without?_leaf_of_onField
    {condition : Leaf}
    (onField : condition.field = field) :
    without? field (.leaf condition) = none := by
  rw [without?, if_pos onField]

/-- Pruning leaves the same of two lists when it does so of their trees, in order. -/
theorem withoutAll_eq_of_agreeOutside
    {content others : List Sqon}
    (agree : List.Forall₂ (AgreeOutside field) content others)
    (keptAlike :
      ∀ child ∈ content, ∀ other, AgreeOutside field child other →
        without? field child = without? field other) :
    withoutAll field content = withoutAll field others := by
  induction agree with
  | nil =>
      rfl
  | cons childAgrees _ inductionHypothesis =>
      rw [List.forall_mem_cons] at keptAlike
      rw [withoutAll, withoutAll, keptAlike.1 _ childAgrees, inductionHypothesis keptAlike.2]

/-- Pruning a field leaves the same of trees that agree outside it. -/
theorem AgreeOutside.without?_eq
    {sqon other : Sqon}
    (agree : AgreeOutside field sqon other) :
    without? field sqon = without? field other := by
  induction sqon using inductionOnChildren generalizing other with
  | leaf condition =>
      cases agree with
      | unchanged =>
          rfl
      | reselected onField otherOnField =>
          rw [without?_leaf_of_onField onField, without?_leaf_of_onField otherOnField]
  | combine op content inductionHypothesis =>
      obtain _ | _ | children := agree
      have keptAlike := withoutAll_eq_of_agreeOutside children fun child member _ =>
        inductionHypothesis child member
      rw [without?, without?, keptAlike]
      -- The two contents are empty together, so either both combinators vanish or neither does.
      cases children <;> rfl

/-- Beside a tree, a leaf on the pruned field leaves nothing behind. -/
theorem without?_all_pair
    {sqon : Sqon}
    {condition : Leaf}
    (onField : condition.field = field) :
    without? field (all [sqon, .leaf condition]) =
      (without? field sqon).map fun kept => all [kept] := by
  cases left : without? field sqon <;>
    simp [all, without?, withoutAll, left, onField]

end Pruning

section Alone

variable {registry : Registry}

/-- A tree with room for one more level compiles around another `and` as it does alone. -/
theorem compile_all_singleton
    {limit : Nat}
    {sqon : Sqon}
    {clause : Clause}
    (fitting : sqon.depth < limit)
    (compiled : sqon.compile registry limit = .ok clause) :
    (all [sqon]).compile registry limit = .ok clause := by
  obtain ⟨-, pending, compiles, closed⟩ := compile_eq_ok_iff.mp compiled
  refine compile_eq_ok_iff.mpr
    ⟨?_, pending, (compiles_singleton_iff_of_positive (by decide)).mpr compiles, closed⟩
  simpa [all, depth, depthOf, Nat.succ_le_iff] using fitting

end Alone

end Sqon

/--
A facet is planned alike against filters that differ in nothing but the
operators and values of leaves on its field, whatever these are.  Where it is
planned against a filter that has room for one more level, it is planned alike
when any condition on its field is added to that filter.
-/
theorem plan_blind_to_own_field
    {registry : Registry}
    {settings : FacetSettings}
    {limit : Nat}
    {facet : FacetSpec}
    {sqon : Sqon}
    {place : Location} :
    (∀ other,
      sqon.AgreeOutside facet.field other →
        facet.plan registry settings limit (some other) place =
          facet.plan registry settings limit (some sqon) place) ∧
      ∀ (condition : Leaf) planned,
        condition.field = facet.field →
        sqon.depth < limit →
        facet.plan registry settings limit (some sqon) place = .ok planned →
          facet.plan registry settings limit (some (.all [sqon, .leaf condition])) place =
            .ok planned := by
  constructor
  · intro other agree
    simp only [FacetSpec.plan, Option.bind_some, agree.without?_eq]
  · intro condition planned onField fitting plans
    obtain ⟨field, kind, clause, resolves, plansKind, compiled, rfl⟩ :=
      FacetSpec.plan_eq_ok_iff.mp plans
    refine FacetSpec.plan_eq_ok_iff.mpr
      ⟨field, kind, clause, resolves, plansKind, ?_, rfl⟩
    rw [Option.bind_some] at compiled ⊢
    rw [Sqon.without?_all_pair onField]
    cases left : sqon.without? facet.field with
    | none =>
        rwa [left] at compiled
    | some kept =>
        rw [left] at compiled
        have keptFitting := (Sqon.depth_le_of_without? left).trans_lt fitting
        exact Sqon.compile_all_singleton keptFitting compiled

/-- The filter on open cases, with a range of genders that does not compile. -/
def openCasesOfRange : Sqon :=
  .all [
    .inValues "status" [.string "open"],
    .negate (.between "donors__gender" none none)]

/-- A facet on the gender that counts open cases. -/
def gendersOfOpenCases : PlannedFacet where
  facet := "donors__gender"
  field := "donors.gender"
  filter := .term "status" [.string "open"]
  nested := ["donors"]
  kind := .terms 100

/-- A facet on the gender is planned alike, whatever is selected of genders. -/
theorem plan_blind_to_selected_genders :
    Sqon.AgreeOutside "donors__gender" openCasesOfMenFilter openCasesOfRange ∧
      (FacetSpec.terms "donors__gender").plan caseRegistry .standard 4 (some openCasesOfRange)
          .root =
        .ok gendersOfOpenCases ∧
      (FacetSpec.terms "donors__gender").plan caseRegistry .standard 4
          (some (.all [openCasesOfMenFilter, .contains "donors__gender" "male"])) .root =
        .ok gendersOfOpenCases := by
  have agree : Sqon.AgreeOutside "donors__gender" openCasesOfMenFilter openCasesOfRange :=
    .combine (.cons (.unchanged _)
      (.cons (.combine (.cons (.reselected rfl rfl) .nil)) .nil))
  have plans :
      (FacetSpec.terms "donors__gender").plan caseRegistry .standard 4
          (some openCasesOfMenFilter) .root =
        .ok gendersOfOpenCases := by
    refine FacetSpec.plan_eq_ok_iff.mpr
      ⟨_, .terms 100, gendersOfOpenCases.filter, rfl, rfl, ?_, rfl⟩
    have pruned :
        openCasesOfMenFilter.without? "donors__gender" =
          some (.all [.inValues "status" [.string "open"]]) := by
      rfl
    simp only [FacetSpec.terms, Option.bind_some, pruned]
    cbv
  refine ⟨agree, (plan_blind_to_own_field.1 _ agree).trans plans, ?_⟩
  exact plan_blind_to_own_field.2 _ _ rfl (by decide) plans

end FacetSearch
