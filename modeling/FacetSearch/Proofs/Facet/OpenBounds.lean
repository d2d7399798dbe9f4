import FacetSearch.Proofs.Facet.Independence
import FacetSearch.Proofs.Facet.RangePartition
import FacetSearch.Proofs.Search.Inputs

namespace FacetSearch

/-!
# Bounds that are left open

A range is open on a side without a bound.  The key of a bucket shows a `null`
bound as an open one too, but its clause compares with the `null`.  So a range
facet is planned with its `null` bounds as it is without them only if it has
none, and facets that were read have none.
-/

namespace RangeSpec

/-- A bound stays, or is left out if it is `null`. -/
inductive LeavesOut : Option Json → Option Json → Prop where
  | kept (bound : Option Json) : LeavesOut bound bound
  | leftOut : LeavesOut (some .null) none

/-- A range without some of its `null` bounds. -/
structure IsOpened (range opened : RangeSpec) : Prop where
  key : opened.key = range.key
  lower : LeavesOut range.lower opened.lower
  upper : LeavesOut range.upper opened.upper

/-- Neither bound of a range is `null`. -/
structure IsPlain (range : RangeSpec) : Prop where
  lower : range.lower ≠ some .null
  upper : range.upper ≠ some .null

end RangeSpec

/-- The lower end of a comparison by size. -/
def Clause.lowerEnd? : Clause → Option Bound
  | .range _ lower _ => lower
  | _ => none

/-- The upper end of a comparison by size. -/
def Clause.upperEnd? : Clause → Option Bound
  | .range _ _ upper => upper
  | _ => none

/--
A bucket puts no end on the sides that its default key shows as `*` because the
range has no bound there, or a `null`.
-/
structure RangeSpec.LeavesOpen (range : RangeSpec) (bucket : RangeBucket) : Prop where
  lower : range.lower = none ∨ range.lower = some .null → bucket.clause.lowerEnd? = none
  upper : range.upper = none ∨ range.upper = some .null → bucket.clause.upperEnd? = none

namespace RangeSpec

section Bucket

variable {range opened : RangeSpec} {path : String} {last : Bool}

theorem LeavesOut.boundLabel_eq
    {bound left : Option Json}
    (leaves : LeavesOut bound left) :
    boundLabel left = boundLabel bound := by
  cases leaves <;> rfl

/-- The key of a bucket does not tell a `null` bound from none. -/
theorem IsOpened.label_eq
    (opens : range.IsOpened opened) :
    opened.label = range.label := by
  simp only [label, opens.key, opens.lower.boundLabel_eq, opens.upper.boundLabel_eq]

/-- The ends in the clause of a bucket are the bounds of its range, `null` or not. -/
theorem ends_bucket
    (range : RangeSpec)
    (path : String)
    (last : Bool) :
    (range.bucket path last).clause.lowerEnd?.map Bound.value = range.lower ∧
      (range.bucket path last).clause.upperEnd?.map Bound.value = range.upper := by
  obtain ⟨key, lower, upper⟩ := range
  cases lower <;> cases upper <;> cases last <;> exact ⟨rfl, rfl⟩

/-- A range without some of its bounds has another bucket. -/
theorem IsOpened.bucket_eq_iff
    (opens : range.IsOpened opened) :
    opened.bucket path last = range.bucket path last ↔ opened = range := by
  constructor
  · intro same
    -- A bound that was left out is missed in the clause, which tells both bounds.
    have lower : opened.lower = range.lower := by
      rw [← (opened.ends_bucket path last).1, same, (range.ends_bucket path last).1]
    have upper : opened.upper = range.upper := by
      rw [← (opened.ends_bucket path last).2, same, (range.ends_bucket path last).2]
    have key := opens.key
    cases opened
    cases range
    rw [RangeSpec.mk.injEq]
    exact ⟨key, lower, upper⟩
  · intro same
    rw [same]

/-- A bucket leaves open what its key shows so, unless a bound is `null`. -/
theorem leavesOpen_bucket_iff :
    range.LeavesOpen (range.bucket path last) ↔ range.IsPlain := by
  obtain ⟨lower, upper⟩ := range.ends_bucket path last
  constructor
  · intro leavesOpen
    constructor
    · intro isNull
      rw [leavesOpen.lower (.inr isNull), isNull] at lower
      cases lower
    · intro isNull
      rw [leavesOpen.upper (.inr isNull), isNull] at upper
      cases upper
  · intro plain
    constructor
    · intro isOpen
      rw [isOpen.resolve_right plain.lower] at lower
      exact Option.map_eq_none_iff.mp lower
    · intro isOpen
      rw [isOpen.resolve_right plain.upper] at upper
      exact Option.map_eq_none_iff.mp upper

end Bucket

section Buckets

variable {ranges openedRanges : List RangeSpec} {path : String}

theorem isEmpty_eq_of_isOpened
    (opens : List.Forall₂ IsOpened ranges openedRanges) :
    openedRanges.isEmpty = ranges.isEmpty := by
  cases opens <;> rfl

theorem map_key_buckets_eq
    (opens : List.Forall₂ IsOpened ranges openedRanges) :
    (buckets path openedRanges).map RangeBucket.key =
      (buckets path ranges).map RangeBucket.key := by
  induction opens with
  | nil =>
      rfl
  | cons first rest inductionHypothesis =>
      rw [buckets_cons, buckets_cons, List.map_cons, List.map_cons, inductionHypothesis,
        bucket, bucket, first.label_eq]

/-- Ranges have the same buckets without some of their bounds only if none is left out. -/
theorem buckets_eq_iff
    (opens : List.Forall₂ IsOpened ranges openedRanges) :
    buckets path openedRanges = buckets path ranges ↔ openedRanges = ranges := by
  induction opens with
  | nil =>
      exact iff_of_true rfl rfl
  | cons first rest inductionHypothesis =>
      rw [buckets_cons, buckets_cons, isEmpty_eq_of_isOpened rest, List.cons.injEq,
        List.cons.injEq, first.bucket_eq_iff, inductionHypothesis]

theorem leavesOpen_buckets_iff :
    List.Forall₂ LeavesOpen ranges (buckets path ranges) ↔ ∀ range ∈ ranges, range.IsPlain := by
  induction ranges with
  | nil =>
      exact iff_of_true .nil (by simp)
  | cons range rest inductionHypothesis =>
      rw [buckets_cons, List.forall₂_cons, leavesOpen_bucket_iff, inductionHypothesis,
        List.forall_mem_cons]

/-- No range that is read has a `null` bound. -/
theorem isPlain_of_read?
    {value : Json}
    {facet : FacetSpec}
    (taken : FacetSpec.read? value = some facet) :
    ∀ range ∈ facet.kind.ranges, range.IsPlain := by
  intro range member
  have normal := FacetSpec.isNormal_of_read? taken range member
  constructor
  · intro isNull
    cases (normal.lower .null isNull).notNull
  · intro isNull
    cases (normal.upper .null isNull).notNull

end Buckets

end RangeSpec

namespace FacetSpec

section Plan

variable
  {registry : Registry}
  {settings : FacetSettings}
  {limit : Nat}
  {filter : Option Sqon}
  {name : String}
  {ranges : List RangeSpec}
  {place : Location}

/-- A range facet is planned on a number or a date, and with one range at least. -/
theorem planKind_range_eq_ok_iff
    {field : Field}
    {kind : PlannedKind} :
    planKind settings name field place (.range ranges) = .ok kind ↔
      (field.type.isNumeric = true ∨ field.type = .date) ∧ ranges ≠ [] ∧
        .range (RangeSpec.buckets field.path ranges) = kind := by
  simp only [planKind, ite_error_eq_ok_iff, Bool.not_eq_true', Bool.not_eq_false,
    Bool.or_eq_true, beq_iff_eq, List.isEmpty_iff, Except.ok.injEq, ne_eq]

/-- Against a filter, ranges are planned on a field that is measured, into their buckets. -/
theorem plan_range_eq_ok_iff
    {planned : PlannedFacet} :
    plan registry settings limit filter { field := name, kind := .range ranges } place =
        .ok planned ↔
      ∃ field clause,
        registry.resolve name place = .ok field ∧
          (field.type.isNumeric = true ∨ field.type = .date) ∧ ranges ≠ [] ∧
          Sqon.compileOptional registry limit (filter.bind (Sqon.without? name)) = .ok clause ∧
          { facet := name, field := field.path, filter := clause, nested := field.nested,
            kind := .range (RangeSpec.buckets field.path ranges) } = planned := by
  rw [plan_eq_ok_iff]
  constructor
  · rintro ⟨field, kind, clause, resolves, plansKind, compiled, made⟩
    obtain ⟨measured, nonempty, rfl⟩ := planKind_range_eq_ok_iff.mp plansKind
    exact ⟨field, clause, resolves, measured, nonempty, compiled, made⟩
  · rintro ⟨field, clause, resolves, measured, nonempty, compiled, made⟩
    exact ⟨field, _, clause, resolves, planKind_range_eq_ok_iff.mpr ⟨measured, nonempty, rfl⟩,
      compiled, made⟩

/--
A planned range facet is planned without any of its `null` bounds too, with the
same keys, and with the same clauses only if none is left out.  Its clauses
leave open what its default keys show as open only if there are no `null` bounds
at all, and no facet that is read has one.
-/
theorem plan_without_null_bounds
    {planned : PlannedFacet}
    (plans :
      plan registry settings limit filter { field := name, kind := .range ranges } place =
        .ok planned) :
    ∃ buckets,
      planned.kind = .range buckets ∧
        (∀ opened, List.Forall₂ RangeSpec.IsOpened ranges opened →
          ∃ openedBuckets,
            plan registry settings limit filter { field := name, kind := .range opened } place =
                .ok { planned with kind := .range openedBuckets } ∧
              openedBuckets.map RangeBucket.key = buckets.map RangeBucket.key ∧
              (openedBuckets = buckets ↔ opened = ranges)) ∧
        (List.Forall₂ RangeSpec.LeavesOpen ranges buckets ↔ ∀ range ∈ ranges, range.IsPlain) ∧
        ∀ value,
          read? value = some { field := name, kind := .range ranges } →
            ∀ range ∈ ranges, range.IsPlain := by
  obtain ⟨field, clause, resolves, measured, nonempty, compiled, rfl⟩ :=
    plan_range_eq_ok_iff.mp plans
  refine ⟨RangeSpec.buckets field.path ranges, rfl, ?_, RangeSpec.leavesOpen_buckets_iff,
    fun value taken => RangeSpec.isPlain_of_read? taken⟩
  intro opened opens
  have openedNonempty : opened ≠ [] := by
    intro none
    subst none
    cases opens
    exact nonempty rfl
  exact ⟨RangeSpec.buckets field.path opened,
    plan_range_eq_ok_iff.mpr ⟨field, clause, resolves, measured, openedNonempty, compiled, rfl⟩,
    RangeSpec.map_key_buckets_eq opens, RangeSpec.buckets_eq_iff opens⟩

end Plan

end FacetSpec

/-- Ages up to 18 and from there on, one open side given as `null` and one not at all. -/
def agesAround18 : Json :=
  .object [
    ("field", .string "donors__age"),
    ("type", .string "range"),
    ("ranges", .array [
      .object [("from", .null), ("to", .int 18)],
      .object [("from", .int 18)]])]

/-- The ranges of ages around 18 as they are read. -/
def rangesAround18 : List RangeSpec := [
  { key := none, lower := none, upper := some (.int 18) },
  { key := none, lower := some (.int 18), upper := none }]

/-- The planned buckets of ages around 18. -/
def bucketsAround18 : List RangeBucket := [
  { key := "*-18", clause := .range "donors.age" none (some (.openEnd (.int 18))) },
  { key := "18-*", clause := .range "donors.age" (some (.closed (.int 18))) none }]

/-- A planned facet on the ages of donors. -/
def plannedAges (buckets : List RangeBucket) : PlannedFacet where
  facet := "donors__age"
  field := "donors.age"
  filter := .matchAll
  nested := ["donors"]
  kind := .range buckets

/-- Read from a request, open sides are left open, however they were given. -/
theorem plan_of_agesAround18 :
    FacetSpec.read? agesAround18 =
        some { field := "donors__age", kind := .range rangesAround18 } ∧
      FacetSpec.plan caseRegistry .standard 3 none
          { field := "donors__age", kind := .range rangesAround18 } .root =
        .ok (plannedAges bucketsAround18) ∧
      List.Forall₂ RangeSpec.LeavesOpen rangesAround18 bucketsAround18 := by
  have taken :
      FacetSpec.read? agesAround18 =
        some { field := "donors__age", kind := .range rangesAround18 } := by
    cbv
  have plans :
      FacetSpec.plan caseRegistry .standard 3 none
          { field := "donors__age", kind := .range rangesAround18 } .root =
        .ok (plannedAges bucketsAround18) := by
    cbv
  obtain ⟨buckets, kind, -, leavesOpen, plainIfRead⟩ := FacetSpec.plan_without_null_bounds plans
  obtain rfl : bucketsAround18 = buckets := PlannedKind.range.inj kind
  exact ⟨taken, plans, leavesOpen.mpr (plainIfRead _ taken)⟩

/-- Ages up to 18 from some bound on. -/
def agesUpTo18 (lower : Option Json) : FacetSpec where
  field := "donors__age"
  kind := .range [{ key := none, lower := lower, upper := some (.int 18) }]

/-- The planned facet on ages up to 18 from some bound on. -/
def plannedAgesUpTo18 (lower : Option Bound) : PlannedFacet :=
  plannedAges [
    { key := "*-18", clause := .range "donors.age" lower (some (.closed (.int 18))) }]

/-- A `null` bound that was not read is compared with, though the key shows an open side. -/
theorem plan_compares_ages_with_null :
    RangeSpec.LeavesOut (some .null) none ∧
      FacetSpec.plan caseRegistry .standard 3 none (agesUpTo18 (some .null)) .root =
        .ok (plannedAgesUpTo18 (some (.closed .null))) ∧
      FacetSpec.plan caseRegistry .standard 3 none (agesUpTo18 none) .root =
        .ok (plannedAgesUpTo18 none) ∧
      plannedAgesUpTo18 (some (.closed .null)) ≠ plannedAgesUpTo18 none := by
  refine ⟨.leftOut, by cbv, by cbv, ?_⟩
  intro same
  simp [plannedAgesUpTo18, plannedAges] at same

end FacetSearch
