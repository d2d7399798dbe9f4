import FacetSearch.Proofs.Facet.Planning
import FacetSearch.Proofs.Sqon.Joining

namespace FacetSearch

/-!
# Facets on conjunctive filters

A facet counts against the filter without the leaves on its own field.  Of a
filter that is a conjunction throughout, this leaves fewer conjuncts, so one
expects every hit to be counted in every facet.  It is, unless pruning brings
conjuncts together: a child that shared no nested ancestor with a sibling while
it had all of its leaves may share one when it has lost some, and from then on
both are tested on the same object.
-/

namespace Sqon

open Compiler

/-- A tree of leaves and `and` nodes only. -/
inductive IsConjunctive : Sqon → Prop where
  | leaf
      (condition : Leaf) :
      IsConjunctive (.leaf condition)
  | all
      {content : List Sqon}
      (children : ∀ child ∈ content, IsConjunctive child) :
      IsConjunctive (.combine .and content)

/--
Two trees that both survive the pruning of a field share the same nested
ancestors as before it.
-/
def ShareTheSame
    (registry : Registry)
    (field : String)
    (first second : Sqon) :
    Prop :=
  ∀ outcomes outcomes',
    Survives registry field first outcomes →
    Survives registry field second outcomes' →
    commonChainOfTwo outcomes.2.chain outcomes'.2.chain =
      commonChainOfTwo outcomes.1.chain outcomes'.1.chain

/-- Pruning a field brings no two siblings under a nested ancestor that they did not share. -/
inductive KeepsApart
    (registry : Registry)
    (field : String) :
    Sqon → Prop where
  | leaf
      (condition : Leaf) :
      KeepsApart registry field (.leaf condition)
  | combine
      {op : Combinator}
      {content : List Sqon}
      (children : ∀ child ∈ content, KeepsApart registry field child)
      (siblings : content.Pairwise (ShareTheSame registry field)) :
      KeepsApart registry field (.combine op content)

section Survivors

variable {registry : Registry} {field : String}

theorem Survives.unique
    {sqon : Sqon}
    {outcomes outcomes' : Pending × Pending}
    (survives : Survives registry field sqon outcomes)
    (alsoSurvives : Survives registry field sqon outcomes') :
    outcomes = outcomes' := by
  obtain ⟨kept, left, compiles, keptCompiles⟩ := survives
  obtain ⟨kept', left', compiles', keptCompiles'⟩ := alsoSurvives
  obtain rfl : kept = kept' := Option.some.inj (left.symm.trans left')
  exact Prod.ext (compiles.unique compiles') (keptCompiles.unique keptCompiles')

theorem Survives.eq_of_leaf
    {condition : Leaf}
    {outcomes : Pending × Pending}
    (survives : Survives registry field (.leaf condition) outcomes) :
    outcomes.2 = outcomes.1 := by
  obtain ⟨kept, left, compiles, keptCompiles⟩ := survives
  obtain ⟨-, rfl⟩ := without?_leaf_eq_some_iff.mp left
  exact keptCompiles.unique compiles

/-- Two survivors share the same ancestors as before when their outcomes do. -/
theorem shareTheSame_of_survives
    {first second : Sqon}
    {outcomes outcomes' : Pending × Pending}
    (firstSurvives : Survives registry field first outcomes)
    (secondSurvives : Survives registry field second outcomes')
    (same :
      commonChainOfTwo outcomes.2.chain outcomes'.2.chain =
        commonChainOfTwo outcomes.1.chain outcomes'.1.chain) :
    ShareTheSame registry field first second := by
  intro others others' firstOthers secondOthers
  rw [← firstSurvives.unique firstOthers, ← secondSurvives.unique secondOthers]
  exact same

/-- Pruning a conjunction of leaves brings none of them closer together. -/
theorem keepsApart_leaves
    (conditions : List Leaf) :
    KeepsApart registry field (.all (conditions.map .leaf)) := by
  apply KeepsApart.combine
  · rw [List.forall_mem_map]
    exact fun condition _ => .leaf condition
  · apply List.pairwise_map.mpr
    apply List.pairwise_of_forall
    intro first second outcomes outcomes' firstSurvives secondSurvives
    rw [firstSurvives.eq_of_leaf, secondSurvives.eq_of_leaf]

/-- Trees that share the same ancestors as before have outcomes that share no more. -/
theorem ShareTheSame.shareNoMore
    {first second : Sqon}
    {outcomes outcomes' : Pending × Pending}
    (same : ShareTheSame registry field first second)
    (firstSurvives : Survives registry field first outcomes)
    (secondSurvives : Survives registry field second outcomes') :
    ShareNoMore outcomes outcomes' := by
  intro chain beginsFirst beginsSecond
  rw [← isPrefix_commonChainOfTwo_iff, ← same outcomes outcomes' firstSurvives secondSurvives]
  exact isPrefix_commonChainOfTwo_iff.mpr ⟨beginsFirst, beginsSecond⟩

/-- A relation between items carries over to the lists of their partners. -/
theorem pairwise_of_forall₂
    {α β : Type}
    {partner : α → β → Prop}
    {related : α → α → Prop}
    {related' : β → β → Prop}
    (carries :
      ∀ a a' b b', related a a' → partner a b → partner a' b' → related' b b')
    {left : List α}
    {right : List β}
    (pairs : List.Forall₂ partner left right)
    (pairwise : left.Pairwise related) :
    right.Pairwise related' := by
  induction pairs with
  | nil =>
      exact .nil
  | cons isPartner rest inductionHypothesis =>
      obtain ⟨firstRelated, restRelated⟩ := List.pairwise_cons.mp pairwise
      refine List.pairwise_cons.mpr ⟨?_, inductionHypothesis restRelated⟩
      intro b member
      obtain ⟨a, aMember, aPartner⟩ := exists_left_of_forall₂ rest member
      exact carries _ _ _ _ (firstRelated a aMember) isPartner aPartner

variable {α : Type} {test : ObjectTest α}

/--
A conjunctive tree gives way to what pruning leaves of it, if pruning brings
no siblings together.
-/
theorem Survives.widens
    {sqon : Sqon}
    {outcomes : Pending × Pending}
    (survives : Survives registry field sqon outcomes)
    (conjunctive : sqon.IsConjunctive)
    (apart : KeepsApart registry field sqon) :
    Widens test outcomes.1 outcomes.2 := by
  induction sqon using inductionOnChildren generalizing outcomes with
  | leaf condition =>
      rw [survives.eq_of_leaf]
      exact Widens.refl _
  | combine op content inductionHypothesis =>
      obtain ⟨before, after⟩ := outcomes
      obtain ⟨kept, left, compiles, keptCompiles⟩ := survives
      obtain ⟨keeps, rfl⟩ := without?_combine_eq_some_iff.mp left
      obtain ⟨children, compile, combination⟩ := compiles_combine_iff.mp compiles
      obtain ⟨survivors, among, keptCompile, survive⟩ :=
        exists_survivors compile fun child member outcome childCompiles childKept childLeft =>
          childCompiles.exists_of_without? childLeft
      have outcomeAfter :
          ∀ {pending}, Combination op (survivors.map Prod.snd) pending → after = pending :=
        fun combined => keptCompiles.unique (compiles_combine_iff.mpr ⟨_, keptCompile, combined⟩)
      obtain _ | childrenConjunctive := conjunctive
      obtain _ | ⟨childrenApart, siblings⟩ := apart
      cases combination with
      | emptyAnd =>
          -- An `and` of nothing is not emptied by pruning, and stays as it is.
          obtain rfl := List.forall₂_nil_right_iff.mp compile
          have noneLeft : survivors.map Prod.snd = [] :=
            List.forall₂_nil_left_iff.mp keptCompile
          rw [noneLeft] at outcomeAfter
          obtain rfl := outcomeAfter .emptyAnd
          exact Widens.refl _
      | conjunction nonempty =>
          have contentNonempty : content ≠ [] := by
            rintro rfl
            exact nonempty (List.forall₂_nil_left_iff.mp compile)
          have someLeft : survivors.map Prod.snd ≠ [] :=
            outcomes_ne_nil (fun noneLeft => contentNonempty (keeps noneLeft)) keptCompile
          obtain rfl := outcomeAfter (.conjunction someLeft)
          have widens : ∀ pair ∈ survivors, Widens test pair.1 pair.2 := by
            intro pair member
            obtain ⟨child, childMember, childSurvives⟩ := exists_left_of_forall₂ survive member
            have inContent := List.mem_of_mem_filter childMember
            exact inductionHypothesis child inContent childSurvives
              (childrenConjunctive child inContent) (childrenApart child inContent)
          have survivorsApart : survivors.Pairwise ShareNoMore := by
            refine pairwise_of_forall₂ ?_ survive (siblings.sublist List.filter_sublist)
            intro first second outcomes outcomes' same firstSurvives secondSurvives
            exact same.shareNoMore firstSurvives secondSurvives
          exact widens_joinSiblings (by simpa using someLeft) among widens survivorsApart

end Survivors

/--
Every hit satisfies the filter of every facet, if the filter on hits is
conjunctive and pruning the field of the facet brings no siblings together.
Compiling the pruned filter succeeds in any case.
-/
theorem facet_filter_holds_of_hit
    {registry : Registry}
    {limit : Nat}
    {sqon : Sqon}
    {full : Clause}
    (conjunctive : sqon.IsConjunctive)
    (compiled : sqon.compile registry limit = .ok full)
    (field : String) :
    ∃ pruned,
      compileOptional registry limit (sqon.without? field) = .ok pruned ∧
        (∀ (facet : FacetSpec) (settings : FacetSettings) (place : Location)
            (planned : PlannedFacet),
          facet.field = field →
          facet.plan registry settings limit (some sqon) place = .ok planned →
          planned.filter = pruned) ∧
        (KeepsApart registry field sqon →
          ∀ {α : Type} (test : ObjectTest α) (document : DocumentTree α),
            full.holds test document = true → pruned.holds test document = true) := by
  have samePlanned :
      ∀ {pruned}, compileOptional registry limit (sqon.without? field) = .ok pruned →
        ∀ (facet : FacetSpec) (settings : FacetSettings) (place : Location)
          (planned : PlannedFacet),
          facet.field = field →
          facet.plan registry settings limit (some sqon) place = .ok planned →
          planned.filter = pruned := by
    rintro pruned compiledPruned facet settings place planned rfl plans
    obtain ⟨_, _, clause, -, -, compiledClause, rfl⟩ := FacetSpec.plan_eq_ok_iff.mp plans
    exact Except.ok.inj (compiledClause.symm.trans compiledPruned)
  obtain ⟨fitting, pending, compiles, rfl⟩ := compile_eq_ok_iff.mp compiled
  cases left : sqon.without? field with
  | none =>
      have compiledPruned : compileOptional registry limit none = .ok .matchAll := rfl
      refine ⟨.matchAll, compiledPruned, samePlanned (left ▸ compiledPruned), ?_⟩
      intro _ α test document _
      rw [Clause.holds]
  | some kept =>
      obtain ⟨keptPending, keptCompiles⟩ := compiles.exists_of_without? left
      have keptFitting := (depth_le_of_without? left).trans fitting
      have compiledPruned :
          compileOptional registry limit (some kept) = .ok keptPending.close :=
        compile_eq_ok_iff.mpr ⟨keptFitting, keptPending, keptCompiles, rfl⟩
      refine ⟨keptPending.close, compiledPruned, samePlanned (left ▸ compiledPruned), ?_⟩
      intro apart α test document holdsFull
      have survives : Survives registry field sqon (pending, keptPending) :=
        ⟨kept, left, compiles, keptCompiles⟩
      exact (survives.widens conjunctive apart).holds_close holdsFull

/-- Open cases of a woman with a diagnosis at stage II. -/
def openCases : Sqon :=
  .all [
    .all [
      inValues "donors__gender" [.string "female"],
      inValues "donors__diagnoses__stage" [.string "II"]],
    inValues "status" [.string "open"]]

/-- The filter on open cases, with both conditions on the donor in one scope. -/
def openCasesClause : Clause :=
  .and [
    .nested "donors" (.and [
      .term "donors.gender" [.string "female"],
      .nested "donors.diagnoses" (.term "donors.diagnoses.stage" [.string "II"])]),
    .term "status" [.string "open"]]

/-- The filter without the gender, with the condition on the stage in scopes of its own. -/
def openCasesWithoutGender : PlannedFacet where
  facet := "donors__gender"
  field := "donors.gender"
  filter :=
    .and [
      .nested "donors"
        (.nested "donors.diagnoses" (.term "donors.diagnoses.stage" [.string "II"])),
      .term "status" [.string "open"]]
  nested := ["donors"]
  kind := .terms 100

theorem openCases_isConjunctive : openCases.IsConjunctive := by
  refine .all (List.forall_mem_cons.mpr ⟨.all ?_, ?_⟩)
  · simpa using ⟨.leaf _, .leaf _⟩
  · simpa using .leaf _

theorem openCases_keepsApart :
    KeepsApart caseRegistry "donors__gender" openCases := by
  have donorsSurvive :
      Survives caseRegistry "donors__gender"
        (.all [
          inValues "donors__gender" [.string "female"],
          inValues "donors__diagnoses__stage" [.string "II"]])
        ({ chain := ["donors"],
           clause :=
            .and [
              .term "donors.gender" [.string "female"],
              .nested "donors.diagnoses" (.term "donors.diagnoses.stage" [.string "II"])] },
          { chain := ["donors", "donors.diagnoses"],
            clause := .term "donors.diagnoses.stage" [.string "II"] }) :=
    ⟨_, rfl, ⟨2, 2, .root, by dsimp only; cbv⟩, ⟨2, 2, .root, by dsimp only; cbv⟩⟩
  have statusSurvives :
      Survives caseRegistry "donors__gender" (inValues "status" [.string "open"])
        (.bare (.term "status" [.string "open"]), .bare (.term "status" [.string "open"])) :=
    ⟨_, rfl, ⟨1, 1, .root, by dsimp only; cbv⟩, ⟨1, 1, .root, by dsimp only; cbv⟩⟩
  apply KeepsApart.combine
  · rw [List.forall_mem_cons]
    refine ⟨keepsApart_leaves [⟨.isIn, "donors__gender", _⟩, ⟨.isIn, _, _⟩], ?_⟩
    simpa using .leaf _
  · exact List.pairwise_pair.mpr (shareTheSame_of_survives donorsSurvive statusSurvives rfl)

/-- A facet on the gender: the condition on the stage goes deeper than before, but stays alone. -/
theorem facet_filter_holds_of_open_case :
    openCases.compile caseRegistry 3 = .ok openCasesClause ∧
      (FacetSpec.terms "donors__gender").plan caseRegistry .standard 3 (some openCases) .root =
        .ok openCasesWithoutGender ∧
      ∀ {α : Type} (test : ObjectTest α) (document : DocumentTree α),
        openCasesClause.holds test document = true →
          openCasesWithoutGender.filter.holds test document = true := by
  have compiled : openCases.compile caseRegistry 3 = .ok openCasesClause := by
    cbv
  have plans :
      (FacetSpec.terms "donors__gender").plan caseRegistry .standard 3 (some openCases) .root =
        .ok openCasesWithoutGender := by
    have pruned :
        openCases.without? "donors__gender" =
          some (.all [
            .all [inValues "donors__diagnoses__stage" [.string "II"]],
            inValues "status" [.string "open"]]) := by
      rfl
    refine FacetSpec.plan_eq_ok_iff.mpr
      ⟨_, .terms 100, openCasesWithoutGender.filter, rfl, rfl, ?_, rfl⟩
    simp only [FacetSpec.terms, Option.bind_some, pruned]
    cbv
  obtain ⟨pruned, -, samePlanned, holds⟩ :=
    facet_filter_holds_of_hit openCases_isConjunctive compiled "donors__gender"
  obtain rfl := samePlanned _ _ _ _ rfl plans
  exact ⟨compiled, plans, holds openCases_keepsApart⟩

/-- Open cases with a woman, and with a donor at the age of 40, who need not be the woman. -/
def casesOfWomen : Sqon :=
  .all [
    .all [
      inValues "donors__gender" [.string "female"],
      inValues "status" [.string "open"]],
    inValues "donors__age" [.int 40]]

/-- The filter on cases of women, with a scope for each condition on donors. -/
def casesOfWomenClause : Clause :=
  .and [
    .and [
      .nested "donors" (.term "donors.gender" [.string "female"]),
      .term "status" [.string "open"]],
    .nested "donors" (.term "donors.age" [.int 40])]

/-- The filter without the status, with both conditions on donors in one scope. -/
def casesOfWomenWithoutStatus : PlannedFacet where
  facet := "status"
  field := "status"
  filter :=
    .nested "donors" (.and [
      .term "donors.gender" [.string "female"],
      .term "donors.age" [.int 40]])
  nested := []
  kind := .terms 100

/-- An open case with a woman, and with somebody else who is 40. -/
def caseOfTwoDonors : DocumentTree (List String) :=
  .object ["status"] [
    ("donors", .object ["donors.gender"] []),
    ("donors", .object ["donors.age"] [])]

/-- An object satisfies the conditions on the fields that it lists. -/
def listed : ObjectTest (List String)
  | .term field _, .object fields _ => fields.contains field
  | _, _ => false

/-- A hit that a facet on the status does not count: without the status, donors are shared. -/
theorem facet_filter_misses_hit :
    casesOfWomen.IsConjunctive ∧
      casesOfWomen.compile caseRegistry 3 = .ok casesOfWomenClause ∧
      (FacetSpec.terms "status").plan caseRegistry .standard 3 (some casesOfWomen) .root =
        .ok casesOfWomenWithoutStatus ∧
      casesOfWomenClause.holds listed caseOfTwoDonors = true ∧
      casesOfWomenWithoutStatus.filter.holds listed caseOfTwoDonors = false := by
  refine ⟨?_, by cbv, ?_, by decide +kernel, by decide +kernel⟩
  · refine .all (List.forall_mem_cons.mpr ⟨.all ?_, ?_⟩)
    · simpa using ⟨.leaf _, .leaf _⟩
    · simpa using .leaf _
  · have pruned :
        casesOfWomen.without? "status" =
          some (.all [
            .all [inValues "donors__gender" [.string "female"]],
            inValues "donors__age" [.int 40]]) := by
      rfl
    refine FacetSpec.plan_eq_ok_iff.mpr
      ⟨_, .terms 100, casesOfWomenWithoutStatus.filter, rfl, rfl, ?_, rfl⟩
    simp only [FacetSpec.terms, Option.bind_some, pruned]
    cbv

end Sqon

end FacetSearch
