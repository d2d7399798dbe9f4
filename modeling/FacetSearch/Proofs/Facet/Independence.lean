import FacetSearch.Proofs.Facet.Blindness
import FacetSearch.Proofs.Record.Decoding

namespace FacetSearch

/-!
# Facets are planned independently

Facets are planned one after the other, and the fields of the earlier ones are
kept in mind.  But all that these decide is whether a field is asked for twice:
where the fields differ, every facet is planned as it is alone, whatever facets
stand beside it and in which order.
-/

namespace FacetSpec

section Planning

variable
  {registry : Registry}
  {settings : FacetSettings}
  {limit : Nat}
  {filter : Option Sqon}
  {facet : FacetSpec}
  {facets others : List FacetSpec}
  {planned othersPlanned : List PlannedFacet}

theorem ite_error_eq_ok_iff
    {α ε : Type}
    {refused : Prop}
    [Decidable refused]
    {failure : ε}
    {result : Except ε α}
    {value : α} :
    (if refused then .error failure else result) = .ok value ↔ ¬refused ∧ result = .ok value := by
  split <;> simp [*]

/-- The kind of a facet does not depend on the place of the facet, which only errors show. -/
theorem planKind_elsewhere
    {name : String}
    {field : Field}
    {place : Location}
    {kind : FacetKind}
    {plannedKind : PlannedKind}
    (plans : planKind settings name field place kind = .ok plannedKind)
    (elsewhere : Location) :
    planKind settings name field elsewhere kind = .ok plannedKind := by
  cases kind <;> simpa only [planKind, ite_error_eq_ok_iff] using plans

/-- A facet is planned alike wherever it stands in a request. -/
theorem plan_elsewhere
    {place : Location}
    {single : PlannedFacet}
    (plans : facet.plan registry settings limit filter place = .ok single)
    (elsewhere : Location) :
    facet.plan registry settings limit filter elsewhere = .ok single := by
  obtain ⟨field, kind, clause, resolves, plansKind, compiled, made⟩ := plan_eq_ok_iff.mp plans
  have found := Registry.resolve_eq_ok_iff.mp resolves
  exact plan_eq_ok_iff.mpr
    ⟨field, kind, clause, Registry.resolve_eq_ok_iff.mpr found,
      planKind_elsewhere plansKind elsewhere, compiled, made⟩

/-- Requested alone, a facet is planned as it is at any place. -/
theorem planAll_singleton_eq_ok_iff
    {alone : List PlannedFacet}
    (place : Location) :
    planAll registry settings limit filter [facet] = .ok alone ↔
      ∃ single,
        facet.plan registry settings limit filter place = .ok single ∧ [single] = alone := by
  rw [planAll, planAfter_cons_eq_ok_iff]
  constructor
  · intro inOrder
    rcases inOrder with ⟨-, single, rest, plans, restPlans, rfl⟩
    obtain rfl : [] = rest := Except.ok.inj restPlans
    exact ⟨single, plan_elsewhere plans place, rfl⟩
  · intro plansSingle
    rcases plansSingle with ⟨single, plans, rfl⟩
    exact ⟨List.not_mem_nil, single, [], plan_elsewhere plans _, rfl, rfl⟩

/-- A facet, requested alone, is planned as the given one. -/
def PlansAlone
    (registry : Registry)
    (settings : FacetSettings)
    (limit : Nat)
    (filter : Option Sqon)
    (facet : FacetSpec)
    (single : PlannedFacet) :
    Prop :=
  planAll registry settings limit filter [facet] = .ok [single]

theorem plansAlone_iff
    {single : PlannedFacet}
    (place : Location) :
    PlansAlone registry settings limit filter facet single ↔
      facet.plan registry settings limit filter place = .ok single := by
  rw [PlansAlone, planAll_singleton_eq_ok_iff place]
  simp

theorem PlansAlone.unique
    {single single' : PlannedFacet}
    (plans : PlansAlone registry settings limit filter facet single)
    (plans' : PlansAlone registry settings limit filter facet single') :
    single = single' :=
  List.singleton_injective (Except.ok.inj (plans.symm.trans plans'))

/--
Behind earlier facets, facets are planned when their fields differ from each
other and from the earlier ones and each facet is planned alone; then each is
planned as it is alone.
-/
theorem planAfter_eq_ok_iff
    {earlier : List String}
    {position : Nat} :
    planAfter registry settings limit filter earlier position facets = .ok planned ↔
      ((facets.map FacetSpec.field).Nodup ∧ (facets.map FacetSpec.field).Disjoint earlier) ∧
        List.Forall₂ (PlansAlone registry settings limit filter) facets planned := by
  induction facets generalizing earlier position planned with
  | nil =>
      simp [planAfter, eq_comm]
  | cons facet rest inductionHypothesis =>
      -- The field of the first facet is new, and it counts as an earlier one for the rest.
      have firstNew :
          (((facet :: rest).map FacetSpec.field).Nodup ∧
              ((facet :: rest).map FacetSpec.field).Disjoint earlier) ↔
            facet.field ∉ earlier ∧
              (rest.map FacetSpec.field).Nodup ∧
              (rest.map FacetSpec.field).Disjoint (facet.field :: earlier) := by
        rw [List.map_cons, List.nodup_cons, List.disjoint_cons_left, List.disjoint_cons_right]
        tauto
      rw [planAfter_cons_eq_ok_iff, firstNew, List.forall₂_cons_left_iff]
      constructor
      · intro plans
        obtain ⟨isNew, first, others, plansFirst, plansRest, rfl⟩ := plans
        obtain ⟨restNew, restAlone⟩ := inductionHypothesis.mp plansRest
        exact ⟨⟨isNew, restNew⟩, first, others, (plansAlone_iff _).mpr plansFirst, restAlone, rfl⟩
      · intro alone
        obtain ⟨⟨isNew, restNew⟩, first, others, firstAlone, restAlone, rfl⟩ := alone
        exact ⟨isNew, first, others, (plansAlone_iff _).mp firstAlone,
          inductionHypothesis.mpr ⟨restNew, restAlone⟩, rfl⟩

/-- Facets on different fields are planned together as each of them is alone. -/
theorem planAll_eq_ok_iff :
    planAll registry settings limit filter facets = .ok planned ↔
      (facets.map FacetSpec.field).Nodup ∧
        List.Forall₂ (PlansAlone registry settings limit filter) facets planned := by
  rw [planAll, planAfter_eq_ok_iff, and_iff_left (List.disjoint_nil_right _)]

/-- Facets can be planned when their fields differ and each can be planned alone. -/
theorem exists_planAll_iff :
    (∃ planned, planAll registry settings limit filter facets = .ok planned) ↔
      (facets.map FacetSpec.field).Nodup ∧
        ∀ facet ∈ facets,
          ∃ alone, planAll registry settings limit filter [facet] = .ok alone := by
  constructor
  · intro together
    obtain ⟨planned, plans⟩ := together
    obtain ⟨distinct, alone⟩ := planAll_eq_ok_iff.mp plans
    refine ⟨distinct, fun facet member => ?_⟩
    obtain ⟨single, -, plansSingle⟩ := exists_right_of_forall₂ alone member
    exact ⟨[single], plansSingle⟩
  · intro apart
    have singles :
        ∀ facet ∈ facets, ∃ single, PlansAlone registry settings limit filter facet single := by
      intro facet member
      obtain ⟨alone, plansAlone⟩ := apart.2 facet member
      obtain ⟨single, plans, rfl⟩ := (planAll_singleton_eq_ok_iff .root).mp plansAlone
      exact ⟨single, plansAlone⟩
    obtain ⟨planned, alone⟩ := exists_forall₂ singles
    exact ⟨planned, planAll_eq_ok_iff.mpr ⟨apart.1, alone⟩⟩

/-- What can be planned stays so when facets are left out or come in another order. -/
theorem exists_planAll_of_subperm
    (plans : planAll registry settings limit filter facets = .ok planned)
    (fewer : others.Subperm facets) :
    ∃ othersPlanned, planAll registry settings limit filter others = .ok othersPlanned := by
  obtain ⟨distinct, alone⟩ := exists_planAll_iff.mp ⟨planned, plans⟩
  refine exists_planAll_iff.mpr ⟨?_, fun facet member => alone facet (fewer.subset member)⟩
  obtain ⟨reordered, isReordered, isSublist⟩ := fewer
  exact (isReordered.map FacetSpec.field).nodup_iff.mp
    (distinct.sublist (isSublist.map FacetSpec.field))

/-- Whatever else is requested, a facet that two requests share is planned alike in both. -/
theorem planned_alike
    (plans : planAll registry settings limit filter facets = .ok planned)
    (othersPlan : planAll registry settings limit filter others = .ok othersPlanned)
    {position otherPosition : Nat}
    (shared : facets[position]? = others[otherPosition]?) :
    planned[position]? = othersPlanned[otherPosition]? := by
  obtain ⟨-, alone⟩ := planAll_eq_ok_iff.mp plans
  obtain ⟨-, othersAlone⟩ := planAll_eq_ok_iff.mp othersPlan
  cases requested : facets[position]? with
  | none =>
      rw [requested, eq_comm] at shared
      rw [List.getElem?_eq_none_iff] at requested shared
      rw [List.getElem?_eq_none (alone.length_eq ▸ requested),
        List.getElem?_eq_none (othersAlone.length_eq ▸ shared)]
  | some facet =>
      obtain ⟨single, found, plansSingle⟩ := exists_at_of_forall₂ alone requested
      obtain ⟨single', found', plansSingle'⟩ :=
        exists_at_of_forall₂ othersAlone (shared.symm.trans requested)
      rw [found, found', plansSingle.unique plansSingle']

end Planning

end FacetSpec

/--
Facets are planned together when their fields differ and each can be planned
alone, and then each is planned as it is alone, under a name of its own.  So
facets may be left out, added or put in another order: the first two leave what
can be planned plannable, and none changes how another facet is planned.
-/
theorem facets_planned_as_alone
    {registry : Registry}
    {settings : FacetSettings}
    {limit : Nat}
    {filter : Option Sqon}
    {facets : List FacetSpec} :
    ((∃ planned, FacetSpec.planAll registry settings limit filter facets = .ok planned) ↔
        (facets.map FacetSpec.field).Nodup ∧
          ∀ facet ∈ facets,
            ∃ alone, FacetSpec.planAll registry settings limit filter [facet] = .ok alone) ∧
      ∀ planned,
        FacetSpec.planAll registry settings limit filter facets = .ok planned →
          List.Forall₂
              (fun facet single =>
                FacetSpec.planAll registry settings limit filter [facet] = .ok [single])
              facets planned ∧
            (planned.map PlannedFacet.facet).Nodup ∧
            (∀ others,
              others.Subperm facets →
                ∃ othersPlanned,
                  FacetSpec.planAll registry settings limit filter others =
                    .ok othersPlanned) ∧
            ∀ others othersPlanned,
              FacetSpec.planAll registry settings limit filter others = .ok othersPlanned →
                ∀ position otherPosition : Nat,
                  facets[position]? = others[otherPosition]? →
                    planned[position]? = othersPlanned[otherPosition]? := by
  refine ⟨FacetSpec.exists_planAll_iff, ?_⟩
  intro planned plans
  obtain ⟨distinct, alone⟩ := FacetSpec.planAll_eq_ok_iff.mp plans
  refine ⟨alone, ?_, fun others => FacetSpec.exists_planAll_of_subperm plans, ?_⟩
  · rwa [FacetSpec.names_of_planAfter plans]
  · intro others othersPlanned othersPlan position otherPosition shared
    exact FacetSpec.planned_alike plans othersPlan shared

/-- A facet on the status that counts cases without a woman. -/
def statusesOfCasesOfMen : PlannedFacet where
  facet := "status"
  field := "status"
  filter := .not (.nested "donors" (.term "donors.gender" [.string "female"]))
  nested := []
  kind := .terms 100

/-- Each of two facets is planned as alone, the second one also in front of the first. -/
theorem facets_planned_as_alone_in_either_order :
    FacetSpec.planAll caseRegistry .standard 3 (some openCasesOfMenFilter)
          [.terms "status", .terms "donors__gender"] =
        .ok [statusesOfCasesOfMen, gendersOfOpenCases] ∧
      FacetSpec.planAll caseRegistry .standard 3 (some openCasesOfMenFilter)
          [.terms "donors__gender"] =
        .ok [gendersOfOpenCases] ∧
      ∃ reordered,
        FacetSpec.planAll caseRegistry .standard 3 (some openCasesOfMenFilter)
            [.terms "donors__gender", .terms "status"] =
          .ok reordered ∧
        some statusesOfCasesOfMen = reordered[1]? := by
  have plans :
      FacetSpec.planAll caseRegistry .standard 3 (some openCasesOfMenFilter)
          [.terms "status", .terms "donors__gender"] =
        .ok [statusesOfCasesOfMen, gendersOfOpenCases] := by
    cbv
  obtain ⟨alone, -, fewer, shared⟩ := facets_planned_as_alone.2 _ plans
  obtain _ | ⟨-, _ | ⟨gendersAlone, -⟩⟩ := alone
  obtain ⟨reordered, reorderedPlan⟩ :=
    fewer [.terms "donors__gender", .terms "status"] (List.Perm.swap _ _ _).subperm
  exact ⟨plans, gendersAlone, reordered, reorderedPlan, shared _ _ reorderedPlan 0 1 rfl⟩

end FacetSearch
