import FacetSearch.Clause.Meaning
import FacetSearch.Proofs.Facet.Planning
import Mathlib.Data.Int.Order.Basic
import Mathlib.Order.Lattice

namespace FacetSearch

/-!
# Contiguous ranges partition the line

The values of a field lie on a line, and each bound of a requested range has a
rank there.  Ranges are contiguous when each begins at the bound where the one
before it ends.  The lower bound of a bucket belongs to it, its upper bound
only in the last bucket; so a value at an inner bound is counted by the last of
the ranges that begin there, and a range between equal bounds counts nothing
unless it is the last.
-/

variable {α : Type}

/-- The value of a field in an object that has at most one value for each field. -/
def DocumentTree.value?
    (field : String) :
    DocumentTree (String → Option α) → Option α
  | .object values _ => values field

section Line

variable [LinearOrder α] (rank : Json → α)

namespace Bound

/-- Whether a lower end admits a value. -/
def isBelow
    (value : α)
    (bound : Bound) :
    Bool :=
  if bound.inclusive then decide (rank bound.value ≤ value)
  else decide (rank bound.value < value)

/-- Whether an upper end admits a value. -/
def isAbove
    (value : α)
    (bound : Bound) :
    Bool :=
  if bound.inclusive then decide (value ≤ rank bound.value)
  else decide (value < rank bound.value)

end Bound

/--
What conditions on single fields say where the values of fields lie on a line.
Texts are no part of the line, so no wildcard matches there.
-/
def lineTest : ObjectTest (String → Option α)
  | .term field values, object =>
      (object.value? field).any fun value => values.any fun given => decide (rank given = value)
  | .range field lower upper, object =>
      (object.value? field).any fun value =>
        lower.all (Bound.isBelow rank value) && upper.all (Bound.isAbove rank value)
  | .present field, object => (object.value? field).isSome
  | _, _ => false

namespace RangeSpec

/-- A value between two bounds, each of which belongs to the line and may be absent. -/
def IsBetween
    (lower upper : Option Json)
    (value : α) :
    Prop :=
  (∀ bound ∈ lower, rank bound ≤ value) ∧ ∀ bound ∈ upper, value ≤ rank bound

instance (lower upper : Option Json) (value : α) : Decidable (IsBetween rank lower upper value) :=
  inferInstanceAs (Decidable (_ ∧ _))

/--
Ranges that cover the line from one bound to another without a gap, through
bounds that never fall.  Only the first range may be open below, and only the
last one above.
-/
inductive Contiguous : Option Json → List RangeSpec → Option Json → Prop where
  | last
      {range : RangeSpec}
      {lower upper : Option Json}
      (begins : range.lower = lower)
      (ends : range.upper = upper)
      (ordered : ∀ first ∈ lower, ∀ last ∈ upper, rank first ≤ rank last) :
      Contiguous lower [range] upper
  | next
      {range : RangeSpec}
      {rest : List RangeSpec}
      {lower upper : Option Json}
      {bound : Json}
      (begins : range.lower = lower)
      (ends : range.upper = some bound)
      (ordered : ∀ first ∈ lower, rank first ≤ rank bound)
      (continued : Contiguous (some bound) rest upper) :
      Contiguous lower (range :: rest) upper

variable {rank} {path : String} {value : α} {object : DocumentTree (String → Option α)}

/-- The end of contiguous ranges does not lie below their beginning. -/
theorem Contiguous.ordered
    {ranges : List RangeSpec}
    {lower upper : Option Json}
    (contiguous : Contiguous rank lower ranges upper) :
    ∀ first ∈ lower, ∀ last ∈ upper, rank first ≤ rank last := by
  induction contiguous with
  | last _ _ ordered =>
      exact ordered
  | next _ _ ordered _ inductionHypothesis =>
      intro first isFirst last isLast
      exact (ordered first isFirst).trans (inductionHypothesis _ rfl last isLast)

/-- A bucket counts a value by its bounds; whether the upper one belongs to it, its place says. -/
theorem holds_bucket
    {range : RangeSpec}
    {last : Bool}
    (valued : object.value? path = some value) :
    (range.bucket path last).clause.holds (lineTest rank) object = true ↔
      (∀ lower ∈ range.lower, rank lower ≤ value) ∧
        ∀ upper ∈ range.upper, if last then value ≤ rank upper else value < rank upper := by
  obtain ⟨key, lower, upper⟩ := range
  cases lower <;> cases upper <;> cases last <;>
    simp [bucket, Clause.holds, lineTest, valued, Bound.isBelow, Bound.isAbove, Bound.closed,
      Bound.openEnd]

/-- The first of some ranges has the bucket of a last one if no other follows. -/
theorem buckets_cons
    (range : RangeSpec)
    (rest : List RangeSpec) :
    buckets path (range :: rest) = range.bucket path rest.isEmpty :: buckets path rest := by
  cases rest <;> rfl

theorem Contiguous.ne_nil
    {ranges : List RangeSpec}
    {lower upper : Option Json}
    (contiguous : Contiguous rank lower ranges upper) :
    ranges ≠ [] := by
  cases contiguous <;> simp

/--
Of the buckets of contiguous ranges, one counts a value between the outer
bounds, and none counts a value elsewhere.
-/
theorem countP_buckets
    {ranges : List RangeSpec}
    {lower upper : Option Json}
    (contiguous : Contiguous rank lower ranges upper)
    (valued : object.value? path = some value) :
    (buckets path ranges).countP (fun bucket => bucket.clause.holds (lineTest rank) object) =
      if IsBetween rank lower upper value then 1 else 0 := by
  induction contiguous with
  | @last range lower upper begins ends _ =>
      have held :
          (range.bucket path true).clause.holds (lineTest rank) object = true ↔
            IsBetween rank lower upper value := by
        simp [holds_bucket valued, begins, ends, IsBetween]
      rw [buckets, List.countP_singleton, if_congr held rfl rfl]
  | @next range rest lower upper bound begins ends ordered continued inductionHypothesis =>
      have held :
          (range.bucket path false).clause.holds (lineTest rank) object = true ↔
            (∀ first ∈ lower, rank first ≤ value) ∧ value < rank bound := by
        simp [holds_bucket valued, begins, ends]
      rw [buckets_cons, List.isEmpty_eq_false_iff.mpr continued.ne_nil, List.countP_cons,
        inductionHypothesis, if_congr held rfl rfl]
      -- The bound where the rest begins decides whether this range or the rest is to count.
      by_cases before : value < rank bound
      · have outside : ¬IsBetween rank (some bound) upper value :=
          fun inside => (inside.1 bound rfl).not_gt before
        have inside :
            IsBetween rank lower upper value ↔ ∀ first ∈ lower, rank first ≤ value :=
          and_iff_left fun last isLast =>
            before.le.trans (continued.ordered bound rfl last isLast)
        simp only [outside, inside, before, and_true, if_false, Nat.zero_add]
      · have reached : rank bound ≤ value := not_lt.mp before
        have begun : ∀ first ∈ lower, rank first ≤ value :=
          fun first isFirst => (ordered first isFirst).trans reached
        have inside :
            IsBetween rank (some bound) upper value ↔ IsBetween rank lower upper value :=
          and_congr_left fun _ => iff_of_true (by simpa using reached) begun
        simp only [inside, before, and_false, if_false, Nat.add_zero]

end RangeSpec

/--
The buckets of a planned facet on contiguous ranges partition what lies between
the outer bounds: a value of the field satisfies one of them if it lies there,
and none of them otherwise.  A side without a bound excludes nothing.
-/
theorem FacetSpec.buckets_partition_of_contiguous
    {registry : Registry}
    {settings : FacetSettings}
    {limit : Nat}
    {filter : Option Sqon}
    {facet : FacetSpec}
    {place : Location}
    {planned : PlannedFacet}
    {rank : Json → α}
    {ranges : List RangeSpec}
    {lower upper : Option Json}
    (kind : facet.kind = .range ranges)
    (contiguous : RangeSpec.Contiguous rank lower ranges upper)
    (plans : facet.plan registry settings limit filter place = .ok planned) :
    ∃ buckets,
      planned.kind = .range buckets ∧
        ∀ object value,
          object.value? planned.field = some value →
            buckets.countP (fun bucket => bucket.clause.holds (lineTest rank) object) =
              if RangeSpec.IsBetween rank lower upper value then 1 else 0 := by
  obtain ⟨field, plannedKind, clause, -, kindPlans, -, rfl⟩ := plan_eq_ok_iff.mp plans
  refine ⟨RangeSpec.buckets field.path ranges, ?_, fun object value valued =>
    RangeSpec.countP_buckets contiguous valued⟩
  rw [kind, planKind] at kindPlans
  split at kindPlans
  · cases kindPlans
  · split at kindPlans
    · cases kindPlans
    · exact (Except.ok.inj kindPlans).symm

end Line

/-- The rank of a whole number among whole numbers; nothing else is given as an age. -/
def wholeRank : Json → Int
  | .number (.integer value) => value
  | _ => 0

/-- Ages up to 18, those of 18 alone, and those from 18 to 65. -/
def donorAges : List RangeSpec := [
  { key := some "minors", lower := none, upper := some (.int 18) },
  { key := none, lower := some (.int 18), upper := some (.int 18) },
  { key := none, lower := some (.int 18), upper := some (.int 65) }]

/-- The planned facet on ages; only the last bucket contains its upper bound. -/
def plannedDonorAges : PlannedFacet where
  facet := "donors__age"
  field := "donors.age"
  filter := .matchAll
  nested := ["donors"]
  kind := .range [
    { key := "minors", clause := .range "donors.age" none (some (.openEnd (.int 18))) },
    { key := "18-18"
      clause := .range "donors.age" (some (.closed (.int 18))) (some (.openEnd (.int 18))) },
    { key := "18-65"
      clause := .range "donors.age" (some (.closed (.int 18))) (some (.closed (.int 65))) }]

/-- Whoever is 18 is counted once, though three of the ranges have a bound there. -/
theorem buckets_partition_of_donorAges :
    RangeSpec.Contiguous wholeRank none donorAges (some (.int 65)) ∧
      FacetSpec.plan caseRegistry .standard 3 none
          { field := "donors__age", kind := .range donorAges } .root =
        .ok plannedDonorAges ∧
      ∃ buckets,
        plannedDonorAges.kind = .range buckets ∧
          ∀ object value,
            object.value? "donors.age" = some value →
              buckets.countP (fun bucket => bucket.clause.holds (lineTest wholeRank) object) =
                if value ≤ 65 then 1 else 0 := by
  have contiguous : RangeSpec.Contiguous wholeRank none donorAges (some (.int 65)) := by
    refine .next rfl rfl (by simp) (.next rfl rfl (by simp) (.last rfl rfl ?_))
    simp [wholeRank, Json.int]
  have plans :
      FacetSpec.plan caseRegistry .standard 3 none
          { field := "donors__age", kind := .range donorAges } .root =
        .ok plannedDonorAges := by
    cbv
  obtain ⟨buckets, kind, counts⟩ :=
    FacetSpec.buckets_partition_of_contiguous rfl contiguous plans
  refine ⟨contiguous, plans, buckets, kind, ?_⟩
  intro object value valued
  rw [counts object value valued]
  simp [RangeSpec.IsBetween, wholeRank, Json.int]

end FacetSearch
