import FacetSearch.Facet.Planner
import FacetSearch.Proofs.Schema.Ancestors
import FacetSearch.Proofs.Sqon.FirstFault
import FacetSearch.Proofs.Sqon.Pruning
import FacetSearch.Proofs.Sqon.Reading

namespace FacetSearch

/-!
# What planning facets can fail with

A facet is planned against the filter without its own field.  Pruning never
breaks a filter that compiles and never makes one deeper, so once the filter on
hits has compiled, planning fails exactly as it would against no filter at all.
-/

namespace FacetSpec

section Plan

variable
  {registry : Registry}
  {settings : FacetSettings}
  {limit : Nat}
  {filter : Option Sqon}
  {facet : FacetSpec}
  {place : Location}

/-- A facet is planned when its field, its kind and the filter without its field are in order. -/
theorem plan_eq_ok_iff
    {planned : PlannedFacet} :
    facet.plan registry settings limit filter place = .ok planned ↔
      ∃ field kind clause,
        registry.resolve facet.field place = .ok field ∧
          planKind settings facet.field field place facet.kind = .ok kind ∧
          Sqon.compileOptional registry limit (filter.bind (Sqon.without? facet.field)) =
            .ok clause ∧
          { facet := facet.field, field := field.path, filter := clause, nested := field.nested,
            kind } = planned := by
  rw [plan]
  constructor
  · intro plans
    split at plans
    · simp at plans
    case h_2 field resolves =>
        split at plans
        · simp at plans
        case h_2 kind plansKind =>
            obtain ⟨clause, compiled, rfl⟩ := Sqon.Compiler.map_eq_ok_iff.mp plans
            exact ⟨field, kind, clause, resolves, plansKind, compiled, rfl⟩
  · rintro ⟨field, kind, clause, resolves, plansKind, compiled, rfl⟩
    simp only [resolves, plansKind, compiled]
    rfl

/-- Against a filter that compiles without its field, a facet is planned as against none. -/
theorem plan_eq_map_of_compiles
    {clause : Clause}
    (compiled :
      Sqon.compileOptional registry limit (filter.bind (Sqon.without? facet.field)) = .ok clause) :
    facet.plan registry settings limit filter place =
      (facet.plan registry settings limit none place).map fun planned =>
        { planned with filter := clause } := by
  have compiledNone : Sqon.compileOptional registry limit none = .ok .matchAll := rfl
  simp only [plan, compiled, Option.bind_none, compiledNone]
  split
  · rfl
  · split <;> rfl

/-- Facets are planned one after the other, each of them on a field of its own. -/
theorem planAfter_cons_eq_ok_iff
    {rest : List FacetSpec}
    {earlier : List String}
    {position : Nat}
    {planned : List PlannedFacet} :
    planAfter registry settings limit filter earlier position (facet :: rest) = .ok planned ↔
      facet.field ∉ earlier ∧
        ∃ first others,
          facet.plan registry settings limit filter (.entry "facets" position) = .ok first ∧
            planAfter registry settings limit filter (facet.field :: earlier) (position + 1)
              rest = .ok others ∧
            first :: others = planned := by
  rw [planAfter]
  by_cases repeated : facet.field ∈ earlier
  · simp [repeated]
  · cases facet.plan registry settings limit filter (.entry "facets" position) with
    | error failure =>
        simp [repeated]
    | ok first =>
        cases planAfter registry settings limit filter (facet.field :: earlier) (position + 1)
            rest <;>
          simp [repeated]

/-- The planned facets have the requested names, in the requested order. -/
theorem names_of_planAfter
    {facets : List FacetSpec}
    {earlier : List String}
    {position : Nat}
    {planned : List PlannedFacet}
    (plans : planAfter registry settings limit filter earlier position facets = .ok planned) :
    planned.map PlannedFacet.facet = facets.map FacetSpec.field := by
  induction facets generalizing earlier position planned with
  | nil =>
      obtain rfl : [] = planned := Except.ok.inj plans
      rfl
  | cons facet rest inductionHypothesis =>
      obtain ⟨-, first, others, plansFirst, plansRest, rfl⟩ := planAfter_cons_eq_ok_iff.mp plans
      obtain ⟨field, kind, clause, -, -, -, rfl⟩ := plan_eq_ok_iff.mp plansFirst
      rw [List.map_cons, List.map_cons, inductionHypothesis plansRest]

/-- Planning facets fails at the first one that repeats another or that cannot be planned. -/
theorem planAfter_cons_eq_error_iff
    {rest : List FacetSpec}
    {earlier : List String}
    {position : Nat}
    {failure : Error} :
    planAfter registry settings limit filter earlier position (facet :: rest) =
        .error failure ↔
      (facet.field ∈ earlier ∧ .invalidFacet facet.field .repeated = failure) ∨
        facet.field ∉ earlier ∧
          (facet.plan registry settings limit filter (.entry "facets" position) =
              .error failure ∨
            (∃ planned,
              facet.plan registry settings limit filter (.entry "facets" position) =
                .ok planned) ∧
              planAfter registry settings limit filter (facet.field :: earlier) (position + 1)
                rest = .error failure) := by
  rw [planAfter]
  by_cases repeated : facet.field ∈ earlier
  · simp [repeated]
  · cases facet.plan registry settings limit filter (.entry "facets" position) with
    | error failure' =>
        simp [repeated]
    | ok planned =>
        cases planAfter registry settings limit filter (facet.field :: earlier) (position + 1)
            rest <;>
          simp [repeated]

/-- Facets against a filter that compiles without any field fail as they do against none. -/
theorem planAfter_eq_error_iff_of_compiles
    {facets : List FacetSpec}
    {earlier : List String}
    {position : Nat}
    {failure : Error}
    (compiles :
      ∀ field, ∃ clause,
        Sqon.compileOptional registry limit (filter.bind (Sqon.without? field)) = .ok clause) :
    planAfter registry settings limit filter earlier position facets = .error failure ↔
      planAfter registry settings limit none earlier position facets = .error failure := by
  induction facets generalizing earlier position with
  | nil =>
      exact Iff.rfl
  | cons facet rest inductionHypothesis =>
      obtain ⟨clause, compiled⟩ := compiles facet.field
      -- Later facets are only reached if this one is planned, which it is against both or neither.
      have plannable :
          (∃ planned,
              facet.plan registry settings limit filter (.entry "facets" position) =
                .ok planned) ↔
            ∃ planned,
              facet.plan registry settings limit none (.entry "facets" position) =
                .ok planned := by
        rw [plan_eq_map_of_compiles compiled]
        cases facet.plan registry settings limit none (.entry "facets" position) <;>
          simp [Except.map]
      rw [planAfter_cons_eq_error_iff, planAfter_cons_eq_error_iff, plannable,
        inductionHypothesis, plan_eq_map_of_compiles compiled, Sqon.Compiler.map_eq_error_iff]

end Plan

end FacetSpec

namespace Sqon

/-- Prune one field after the other. -/
def withoutEach?
    (fields : List String)
    (sqon : Sqon) :
    Option Sqon :=
  fields.foldlM (fun kept field => kept.without? field) sqon

theorem depth_le_of_withoutEach?
    {fields : List String}
    {sqon kept : Sqon}
    (left : sqon.withoutEach? fields = some kept) :
    kept.depth ≤ sqon.depth := by
  induction fields generalizing sqon with
  | nil =>
      obtain rfl : sqon = kept := Option.some.inj left
      exact Nat.le_refl _
  | cons field rest inductionHypothesis =>
      rw [withoutEach?, List.foldlM_cons] at left
      obtain ⟨first, firstLeft, restLeft⟩ := Option.bind_eq_some_iff.mp left
      exact (inductionHypothesis restLeft).trans (depth_le_of_without? firstLeft)

section Compile

variable {registry : Registry} {limit : Nat}

/-- What pruning leaves of a tree that compiles compiles within the same limit. -/
theorem exists_compileOptional_without?
    {sqon : Sqon}
    {clause : Clause}
    (compiled : sqon.compile registry limit = .ok clause)
    (field : String) :
    ∃ pruned, compileOptional registry limit (sqon.without? field) = .ok pruned := by
  obtain ⟨fitting, pending, compiles, -⟩ := compile_eq_ok_iff.mp compiled
  cases left : sqon.without? field with
  | none =>
      exact ⟨.matchAll, rfl⟩
  | some kept =>
      obtain ⟨keptPending, keptCompiles⟩ := compiles.exists_of_without? left
      exact ⟨keptPending.close, compile_eq_ok_iff.mpr
        ⟨(depth_le_of_without? left).trans fitting, keptPending, keptCompiles, rfl⟩⟩

/-- A filter that keeps to the limit, or is missing, does not fail for its depth. -/
theorem isTooDeep_of_compileOptional
    {filter : Option Sqon}
    {failure : Error}
    (fitting : ∀ sqon ∈ filter, sqon.depth ≤ limit)
    (failed : compileOptional registry limit filter = .error failure) :
    failure.isTooDeep = false := by
  cases filter with
  | none =>
      cases failed
  | some sqon =>
      exact isTooDeep_of_compile (fitting sqon rfl) failed

end Compile

end Sqon

/--
Pruning never breaks a filter that compiles.  A filter that was read within a
limit does not fail for its depth when it is compiled within the same limit,
whatever has been pruned of it.  So facets that are planned beside a filter
that compiles fail only for what is wrong with them against any filter.
-/
theorem facets_fail_for_themselves
    {registry : Registry}
    {limit : Nat} :
    (∀ (sqon : Sqon) clause field,
      sqon.compile registry limit = .ok clause →
        ∃ pruned, Sqon.compileOptional registry limit (sqon.without? field) = .ok pruned) ∧
      (∀ document sqon,
        Sqon.ofJson limit document = .ok sqon →
          (∀ failure, sqon.compile registry limit = .error failure → failure.isTooDeep = false) ∧
            ∀ fields failure,
              Sqon.compileOptional registry limit (sqon.withoutEach? fields) = .error failure →
                failure.isTooDeep = false) ∧
      ∀ settings filter clause facets failure,
        Sqon.compileOptional registry limit filter = .ok clause →
          (FacetSpec.planAll registry settings limit filter facets = .error failure ↔
            FacetSpec.planAll registry settings limit none facets = .error failure) := by
  refine ⟨?_, ?_, ?_⟩
  · intro sqon clause field compiled
    exact Sqon.exists_compileOptional_without? compiled field
  · intro document sqon read
    have fitting := Sqon.depth_le_of_ofJson read
    refine ⟨fun failure => Sqon.isTooDeep_of_compile fitting, ?_⟩
    intro fields failure failed
    refine Sqon.isTooDeep_of_compileOptional ?_ failed
    intro kept left
    exact (Sqon.depth_le_of_withoutEach? left).trans fitting
  · intro settings filter clause facets failure compiled
    apply FacetSpec.planAfter_eq_error_iff_of_compiles
    intro field
    cases filter with
    | none =>
        exact ⟨.matchAll, rfl⟩
    | some sqon =>
        exact Sqon.exists_compileOptional_without? compiled field

/-- Open cases without a woman, as a request gives them. -/
def openCasesOfMen : Json :=
  .object [
    ("op", .string "and"),
    ("content", .array [
      .object [
        ("op", .string "in"), ("fieldName", .string "status"),
        ("value", .array [.string "open"])],
      .object [
        ("op", .string "not"),
        ("content", .array [
          .object [
            ("op", .string "in"), ("fieldName", .string "donors__gender"),
            ("value", .string "female")]])]])]

/-- The filter on open cases without a woman. -/
def openCasesOfMenFilter : Sqon :=
  .all [
    Sqon.inValues "status" [.string "open"],
    .negate (.test .isIn "donors__gender" (.string "female"))]

/-- Statistics on the status fail for its type, beside a filter and without one. -/
theorem facets_fail_for_themselves_beside_openCasesOfMen :
    Sqon.ofJson 3 openCasesOfMen = .ok openCasesOfMenFilter ∧
      openCasesOfMenFilter.compile caseRegistry 3 =
        .ok (.and [
          .term "status" [.string "open"],
          .not (.nested "donors" (.term "donors.gender" [.string "female"]))]) ∧
      (∃ pruned,
        Sqon.compileOptional caseRegistry 3 (openCasesOfMenFilter.without? "donors__gender") =
          .ok pruned) ∧
      (∀ fields failure,
        Sqon.compileOptional caseRegistry 3 (openCasesOfMenFilter.withoutEach? fields) =
          .error failure → failure.isTooDeep = false) ∧
      FacetSpec.planAll caseRegistry .standard 3 (some openCasesOfMenFilter)
          [.terms "donors__gender", { field := "status", kind := .stats }] =
        .error (.typeMismatch .stats "status" .keyword (.entry "facets" 1)) := by
  have read : Sqon.ofJson 3 openCasesOfMen = .ok openCasesOfMenFilter := by
    cbv
  have compiled :
      openCasesOfMenFilter.compile caseRegistry 3 =
        .ok (.and [
          .term "status" [.string "open"],
          .not (.nested "donors" (.term "donors.gender" [.string "female"]))]) := by
    cbv
  refine ⟨read, compiled, facets_fail_for_themselves.1 _ _ _ compiled,
    (facets_fail_for_themselves.2.1 _ _ read).2, ?_⟩
  refine (facets_fail_for_themselves.2.2 _ (some openCasesOfMenFilter) _ _ _ compiled).mpr ?_
  cbv

end FacetSearch
