import FacetSearch.Proofs.Facet.Planning
import FacetSearch.Proofs.Search.SortKeys
import FacetSearch.Proofs.Search.Window

namespace FacetSearch

/-!
# Requests that leave the sizes open

A page of the default size and a terms facet of the default size are within the
limits of accepted settings.  So facets are never refused for their default
size, and neither are pages, unless the default page size is no signed number.
-/

/-- Settings are accepted exactly if the default sizes lie within limits that admit anything. -/
theorem Settings.fault?_eq_none_iff
    {settings : Settings} :
    settings.fault? = none ↔
      settings.pages.maxPageSize ≠ 0 ∧
        settings.pages.defaultPageSize ≤ settings.pages.maxPageSize ∧
        settings.pages.maxPageSize ≤ settings.pages.maxResultWindow ∧
        settings.facets.defaultTermsSize ≠ 0 ∧
        settings.facets.defaultTermsSize ≤ settings.facets.maxTermsSize ∧
        settings.compiler.maxDepth ≠ 0 := by
  rw [fault?]
  simp only [ite_eq_iff, reduceCtorEq, and_false, false_or, and_true, not_or, UInt64.not_lt, ne_eq,
    and_assoc]

namespace FacetSpec

variable
  {registry : Registry}
  {settings : FacetSettings}
  {facet : FacetSpec}
  {place : Location}

/-- On a field with values, an open size is the default one. -/
theorem planKind_openSize_eq_ok_iff
    {field : Field}
    {kind : PlannedKind} :
    planKind settings facet.field field place (.terms none) = .ok kind ↔
      field.type.isContainer = false ∧ .terms settings.defaultTermsSize = kind := by
  rw [planKind]
  cases field.type.isContainer <;> simp [termsSize, Except.map]

/--
A terms facet of open size is planned with the default one, where it is on a
declared field with values and the filter compiles without that field.
-/
theorem plan_openSize_eq_ok_iff
    {limit : Nat}
    {filter : Option Sqon}
    {planned : PlannedFacet}
    (openSize : facet.kind = .terms none) :
    facet.plan registry settings limit filter place = .ok planned ↔
      ∃ field clause,
        registry.field? facet.field = some field ∧
          field.type.isContainer = false ∧
          Sqon.compileOptional registry limit (filter.bind (Sqon.without? facet.field)) =
            .ok clause ∧
          { facet := facet.field, field := field.path, filter := clause, nested := field.nested,
            kind := .terms settings.defaultTermsSize } = planned := by
  rw [plan_eq_ok_iff, openSize]
  constructor
  · rintro ⟨field, kind, clause, resolves, plansKind, compiled, rfl⟩
    obtain ⟨values, rfl⟩ := planKind_openSize_eq_ok_iff.mp plansKind
    exact ⟨field, clause, Registry.resolve_eq_ok_iff.mp resolves, values, compiled, rfl⟩
  · rintro ⟨field, clause, found, values, compiled, rfl⟩
    exact ⟨field, _, clause, Registry.resolve_eq_ok_iff.mpr found,
      planKind_openSize_eq_ok_iff.mpr ⟨values, rfl⟩, compiled, rfl⟩

end FacetSpec

namespace Settings

variable {settings : Settings}

/--
Under accepted settings a request that asks for nothing gets its first page of
the default size, wherever the default sort resolves; but a default size that is
no signed number is refused as a negative one.  A terms facet of open size is planned
with a size within the limits, whatever those are.
-/
theorem default_requests_of_accepted
    (accepted : settings.fault? = none) :
    (∀ (registry : Registry) keys,
        registry.sortKeys [] = .ok keys →
          registry.page settings.pages [] .standard =
            if settings.pages.defaultPageSize.toNat < 2 ^ 63 then
              .ok { sort := keys, start := 0, size := settings.pages.defaultPageSize }
            else
              .error
                (.invalidPage
                  (.negativeFirst ((settings.pages.defaultPageSize.toNat : Int) - 2 ^ 64)))) ∧
      ∀ (registry : Registry) filter (facet : FacetSpec) place,
        facet.kind = .terms none →
          ∃ size : UInt64,
            1 ≤ size.toNat ∧
              size.toNat ≤ settings.facets.maxTermsSize.toNat ∧
              ∀ planned,
                facet.plan registry settings.facets settings.compiler.maxDepth.toNat filter
                      place =
                    .ok planned ↔
                  ∃ field clause,
                    registry.field? facet.field = some field ∧
                      field.type.isContainer = false ∧
                      Sqon.compileOptional registry settings.compiler.maxDepth.toNat
                          (filter.bind (Sqon.without? facet.field)) =
                        .ok clause ∧
                      { facet := facet.field, field := field.path, filter := clause,
                        nested := field.nested, kind := .terms size } = planned := by
  obtain ⟨-, pageFits, windowFits, termsAny, termsFit, -⟩ := fault?_eq_none_iff.mp accepted
  constructor
  · intro registry keys sorts
    rw [Registry.page, PageRequest.window_standard pageFits windowFits]
    split_ifs
    · simp only [sorts]
      rfl
    · rfl
  · intro registry filter facet place openSize
    refine ⟨settings.facets.defaultTermsSize, ?_, UInt64.le_iff_toNat_le.mp termsFit, ?_⟩
    · exact Nat.pos_of_ne_zero fun zero => termsAny (UInt64.toNat.inj zero)
    · exact fun planned => FacetSpec.plan_openSize_eq_ok_iff openSize

end Settings

/-- Settings with one size for the default page, for the largest one and for the window. -/
def settingsOfPages (size : UInt64) : Settings :=
  { Settings.standard none with
    pages := { defaultPageSize := size, maxPageSize := size, maxResultWindow := size } }

/-- The default sort of cases, which is by their identities. -/
theorem sortKeys_caseRegistry :
    caseRegistry.sortKeys [] = .ok [{ field := "_id", direction := .asc, nested := [] }] := by
  decide +kernel

/-- The largest signed number is a default size that is granted. -/
theorem default_requests_of_largest_signed_page :
    (settingsOfPages 9223372036854775807).fault? = none ∧
      caseRegistry.page (settingsOfPages 9223372036854775807).pages [] .standard =
          .ok {
            sort := [{ field := "_id", direction := .asc, nested := [] }]
            start := 0
            size := 9223372036854775807 } ∧
      ∃ size : UInt64,
        1 ≤ size.toNat ∧
          size.toNat ≤ 1000 ∧
          FacetSpec.plan caseRegistry (settingsOfPages 9223372036854775807).facets 64 none
              (.terms "status") (.entry "facets" 0) =
            .ok {
              facet := "status"
              field := "status"
              filter := .matchAll
              nested := []
              kind := .terms size } := by
  have accepted : (settingsOfPages 9223372036854775807).fault? = none := by
    decide +kernel
  obtain ⟨pages, facets⟩ := Settings.default_requests_of_accepted accepted
  obtain ⟨size, positive, bounded, plans⟩ :=
    facets caseRegistry none (.terms "status") (.entry "facets" 0) rfl
  exact ⟨accepted, pages caseRegistry _ sortKeys_caseRegistry, size, positive, bounded,
    (plans _).mpr ⟨_, _, rfl, rfl, rfl, rfl⟩⟩

/-- The number after it is accepted as a default size and refused as a negative one. -/
theorem default_page_refused_of_unsigned_size :
    (settingsOfPages 9223372036854775808).fault? = none ∧
      caseRegistry.sortKeys [] = .ok [{ field := "_id", direction := .asc, nested := [] }] ∧
      caseRegistry.page (settingsOfPages 9223372036854775808).pages [] .standard =
        .error (.invalidPage (.negativeFirst (-9223372036854775808))) :=
  ⟨by decide +kernel, sortKeys_caseRegistry, by decide +kernel⟩

end FacetSearch
