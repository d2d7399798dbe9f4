import FacetSearch.Facet.Result
import FacetSearch.Proofs.Entries

namespace FacetSearch

/-!
# Collecting facet results

The results of facets are collected in the order of the plan, until a facet is
missing from the report, has the other shape or has another number of ranges.
Nothing else can go wrong, and the results that are collected have the names
of the planned facets.
-/

section Report

variable
  {reported : List (String × RawFacet)}
  {sortByKey : Bool}
  {planned : PlannedFacet}
  {fault : AnswerFault}

namespace PlannedFacet

/-- What is reported for a planned facet is not what the facet asks for. -/
inductive Mismatch
    (planned : PlannedFacet) :
    Option RawFacet → AnswerFault → Prop where
  | missing : Mismatch planned none (.missingFacet planned.facet)
  | statsForBuckets {stats : Stats} :
      planned.kind ≠ .stats →
      Mismatch planned (some (.stats stats)) (.wrongShape planned.facet)
  | bucketsForStats {buckets : List RawBucket} :
      planned.kind = .stats →
      Mismatch planned (some (.buckets buckets)) (.wrongShape planned.facet)
  | bucketCount {ranges : List RangeBucket} {buckets : List RawBucket} :
      planned.kind = .range ranges →
      ranges.length ≠ buckets.length →
      Mismatch planned (some (.buckets buckets))
        (.bucketCount planned.facet ranges.length buckets.length)

/-- A facet is reported, and as it asks for. -/
def FitsReport
    (planned : PlannedFacet)
    (reported : List (String × RawFacet)) :
    Prop :=
  ∀ fault, ¬ planned.Mismatch (Entries.lookup? planned.facet reported) fault

theorem result_eq_error_iff
    (sortByKey : Bool)
    {raw : RawFacet} :
    planned.result sortByKey raw = .error fault ↔ planned.Mismatch (some raw) fault := by
  constructor
  · intro fails
    cases raw with
    | stats stats =>
        cases kind : planned.kind with
        | stats =>
            simp [result, kind] at fails
        | terms | range =>
            obtain rfl : .wrongShape planned.facet = fault := by simpa [result, kind] using fails
            exact .statsForBuckets (by simp [kind])
    | buckets buckets =>
        cases kind : planned.kind with
        | terms size =>
            simp [result, kind] at fails
        | range ranges =>
            by_cases sameNumber : ranges.length = buckets.length
            · simp [result, kind, sameNumber] at fails
            · obtain rfl : .bucketCount planned.facet ranges.length buckets.length = fault := by
                simpa [result, kind, sameNumber] using fails
              exact .bucketCount kind sameNumber
        | stats =>
            obtain rfl : .wrongShape planned.facet = fault := by simpa [result, kind] using fails
            exact .bucketsForStats kind
  · intro mismatch
    cases mismatch with
    | statsForBuckets notStats =>
        cases kind : planned.kind with
        | stats =>
            exact (notStats kind).elim
        | terms | range =>
            simp [result, kind]
    | bucketsForStats kind =>
        simp [result, kind]
    | bucketCount kind otherNumber =>
        simp [result, kind, otherNumber]

/-- A facet has a result exactly if its report fits. -/
theorem fitsReport_iff
    (sortByKey : Bool) :
    planned.FitsReport reported ↔
      ∃ raw result,
        Entries.lookup? planned.facet reported = some raw ∧
          planned.result sortByKey raw = .ok result := by
  rw [FitsReport]
  cases Entries.lookup? planned.facet reported with
  | none =>
      constructor
      · intro fits
        exact (fits _ .missing).elim
      · intro made
        obtain ⟨raw, result, found, -⟩ := made
        cases found
  | some raw =>
      simp only [← result_eq_error_iff sortByKey]
      cases outcome : planned.result sortByKey raw <;> simp [outcome]

end PlannedFacet

/-- The first facet whose report does not fit is misreported in the given way. -/
def IsFirstMismatch
    (reported : List (String × RawFacet))
    (facets : List PlannedFacet)
    (fault : AnswerFault) :
    Prop :=
  ∃ before planned after,
    facets = before ++ planned :: after ∧
      (∀ earlier ∈ before, earlier.FitsReport reported) ∧
      planned.Mismatch (Entries.lookup? planned.facet reported) fault

namespace FacetResults

variable {facets : List PlannedFacet} {results collected : FacetResults}

theorem collect_cons_eq_ok_iff :
    collect reported sortByKey (planned :: facets) results = .ok collected ↔
      ∃ raw result,
        Entries.lookup? planned.facet reported = some raw ∧
          planned.result sortByKey raw = .ok result ∧
          collect reported sortByKey facets (Entries.insert planned.facet result results) =
            .ok collected := by
  rw [collect]
  cases Entries.lookup? planned.facet reported with
  | none =>
      simp
  | some raw =>
      cases outcome : planned.result sortByKey raw <;> simp [outcome]

theorem collect_cons_eq_error_iff :
    collect reported sortByKey (planned :: facets) results = .error fault ↔
      planned.Mismatch (Entries.lookup? planned.facet reported) fault ∨
        ∃ raw result,
          Entries.lookup? planned.facet reported = some raw ∧
            planned.result sortByKey raw = .ok result ∧
            collect reported sortByKey facets (Entries.insert planned.facet result results) =
              .error fault := by
  rw [collect]
  cases Entries.lookup? planned.facet reported with
  | none =>
      constructor
      · intro fails
        obtain rfl : .missingFacet planned.facet = fault := Except.error.inj fails
        exact .inl .missing
      · intro mismatch
        rcases mismatch with mismatch | later
        · cases mismatch
          rfl
        · simp at later
  | some raw =>
      rw [← PlannedFacet.result_eq_error_iff sortByKey]
      cases outcome : planned.result sortByKey raw <;> simp [outcome]

/-- Collecting fails at the first facet whose report does not fit. -/
theorem collect_eq_error_iff
    (sortByKey : Bool)
    {results : FacetResults} :
    collect reported sortByKey facets results = .error fault ↔
      IsFirstMismatch reported facets fault := by
  induction facets generalizing results with
  | nil =>
      simp [collect, IsFirstMismatch]
  | cons planned rest inductionHypothesis =>
      rw [collect_cons_eq_error_iff]
      constructor
      · intro fails
        rcases fails with mismatch | later
        · exact ⟨[], planned, rest, rfl, by simp, mismatch⟩
        · obtain ⟨raw, result, found, made, laterFails⟩ := later
          have fits := (PlannedFacet.fitsReport_iff sortByKey).mpr ⟨raw, result, found, made⟩
          obtain ⟨before, failing, after, rfl, beforeFit, mismatch⟩ :=
            inductionHypothesis.mp laterFails
          exact ⟨planned :: before, failing, after, rfl,
            List.forall_mem_cons.mpr ⟨fits, beforeFit⟩, mismatch⟩
      · intro isFirst
        obtain ⟨before, failing, after, split, beforeFit, mismatch⟩ := isFirst
        cases before with
        | nil =>
            obtain ⟨rfl, rfl⟩ := List.cons.inj split
            exact .inl mismatch
        | cons first before =>
            obtain ⟨rfl, rfl⟩ := List.cons.inj split
            obtain ⟨fits, restFit⟩ := List.forall_mem_cons.mp beforeFit
            obtain ⟨raw, result, found, made⟩ := (PlannedFacet.fitsReport_iff sortByKey).mp fits
            exact .inr ⟨raw, result, found, made,
              inductionHypothesis.mpr ⟨before, failing, after, rfl, restFit, mismatch⟩⟩

/-- When collecting succeeds every report fits, and a result is entered for each facet. -/
theorem entries_of_collect
    (succeeds : collect reported sortByKey facets results = .ok collected) :
    (∀ planned ∈ facets, planned.FitsReport reported) ∧
      ∃ entries,
        entries.map Prod.fst = facets.map PlannedFacet.facet ∧
          Entries.insertAll entries results = collected := by
  induction facets generalizing results with
  | nil =>
      obtain rfl : results = collected := Except.ok.inj succeeds
      exact ⟨by simp, [], rfl, rfl⟩
  | cons planned rest inductionHypothesis =>
      obtain ⟨raw, result, found, made, restSucceeds⟩ := collect_cons_eq_ok_iff.mp succeeds
      have fits := (PlannedFacet.fitsReport_iff sortByKey).mpr ⟨raw, result, found, made⟩
      obtain ⟨restFit, entries, names, entered⟩ := inductionHypothesis restSucceeds
      refine ⟨List.forall_mem_cons.mpr ⟨fits, restFit⟩, (planned.facet, result) :: entries, ?_,
        entered⟩
      rw [List.map_cons, List.map_cons, names]

/-- Results that are collected from nothing have the names of the planned facets. -/
theorem hasKeys_of_collect
    (succeeds : collect reported sortByKey facets [] = .ok collected) :
    Entries.HasKeys collected (facets.map PlannedFacet.facet) := by
  obtain ⟨-, entries, names, rfl⟩ := entries_of_collect succeeds
  rw [← names]
  exact Entries.hasKeys_ofList

theorem ofAnswer_eq_ok_iff
    {plan : Plan} :
    ofAnswer plan reported sortByKey = .ok collected ↔
      collect reported sortByKey plan.facets [] = .ok collected := by
  rw [ofAnswer]
  cases collect reported sortByKey plan.facets [] <;> simp [Except.mapError]

/-- An answer is rejected for the first facet whose report does not fit. -/
theorem ofAnswer_eq_error_iff
    {plan : Plan}
    {failure : Error} :
    ofAnswer plan reported sortByKey = .error failure ↔
      ∃ fault,
        IsFirstMismatch reported plan.facets fault ∧
          .engineRejected plan.index none (.mismatch fault) none = failure := by
  rw [ofAnswer]
  constructor
  · intro fails
    cases outcome : collect reported sortByKey plan.facets [] with
    | error fault =>
        rw [outcome] at fails
        exact ⟨fault, (collect_eq_error_iff sortByKey).mp outcome, Except.error.inj fails⟩
    | ok results =>
        rw [outcome] at fails
        cases fails
  · intro misreported
    obtain ⟨fault, isFirst, rfl⟩ := misreported
    rw [(collect_eq_error_iff sortByKey).mpr isFirst]
    rfl

end FacetResults

end Report

end FacetSearch
