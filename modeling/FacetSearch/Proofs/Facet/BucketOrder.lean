import FacetSearch.Proofs.Facet.Collecting
import Mathlib.Data.List.Sort

namespace FacetSearch

/-!
# Buckets in an order of their own

Sorted buckets stand by count and then by key.  This order leaves no two
different buckets undecided, so it does not matter in which order the engine
reports the buckets of a terms facet.  Ranges are matched by position and
statistics have no buckets, so sorting leaves both alone.
-/

namespace FacetBucket

variable {left right : FacetBucket} {buckets : List FacetBucket}

/-- A larger count comes first, and of equal counts the smaller key. -/
def IsBefore
    (left right : FacetBucket) :
    Prop :=
  right.count < left.count ∨ left.count = right.count ∧ left.key ≤ right.key

theorem precedes_eq_true_iff :
    left.precedes right = true ↔ left.IsBefore right := by
  simp [precedes, IsBefore]

instance : DecidableRel IsBefore :=
  fun _ _ => decidable_of_iff _ precedes_eq_true_iff

instance : Std.Total IsBefore where
  total left right := by
    by_cases same : left.count = right.count
    · rcases String.le_total left.key right.key with before | after
      · exact .inl (.inr ⟨same, before⟩)
      · exact .inr (.inr ⟨same.symm, after⟩)
    · rcases UInt64.lt_or_lt_of_ne same with fewer | more
      · exact .inr (.inl fewer)
      · exact .inl (.inl more)

instance : IsTrans FacetBucket IsBefore where
  trans first second third := by
    rintro (more | ⟨same, before⟩) (more' | ⟨same', before'⟩)
    · exact .inl (UInt64.lt_trans more' more)
    · exact .inl (same' ▸ more)
    · exact .inl (same ▸ more')
    · exact .inr ⟨same.trans same', String.le_trans before before'⟩

/-- Buckets that the order does not tell apart are the same. -/
instance : Std.Antisymm IsBefore where
  antisymm left right := by
    rintro (more | ⟨same, before⟩) (more' | ⟨same', before'⟩)
    · exact (UInt64.lt_asymm more more').elim
    · exact (UInt64.lt_irrefl _ (same' ▸ more)).elim
    · exact (UInt64.lt_irrefl _ (same ▸ more')).elim
    · obtain ⟨key, count⟩ := left
      obtain rfl : count = right.count := same
      obtain rfl : key = right.key := String.le_antisymm before before'
      rfl

theorem insertSorted_eq_orderedInsert
    {bucket : FacetBucket} :
    insertSorted bucket buckets = buckets.orderedInsert IsBefore bucket := by
  induction buckets with
  | nil =>
      rfl
  | cons first rest inductionHypothesis =>
      rw [insertSorted, List.orderedInsert_cons, inductionHypothesis]
      exact if_congr precedes_eq_true_iff rfl rfl

theorem sort_eq_insertionSort :
    sort buckets = buckets.insertionSort IsBefore := by
  induction buckets with
  | nil =>
      rfl
  | cons bucket rest inductionHypothesis =>
      rw [sort, insertSorted_eq_orderedInsert, inductionHypothesis, List.insertionSort_cons]

theorem perm_sort :
    (sort buckets).Perm buckets := by
  rw [sort_eq_insertionSort]
  exact List.perm_insertionSort IsBefore buckets

theorem pairwise_sort :
    (sort buckets).Pairwise IsBefore := by
  rw [sort_eq_insertionSort]
  exact List.pairwise_insertionSort IsBefore buckets

/-- Sorting forgets the order in which buckets come. -/
theorem sort_eq_of_perm
    {buckets' : List FacetBucket}
    (reordered : buckets.Perm buckets') :
    sort buckets = sort buckets' :=
  List.Perm.eq_of_pairwise' pairwise_sort pairwise_sort
    (perm_sort.trans (reordered.trans perm_sort.symm))

end FacetBucket

namespace PlannedFacet

variable {planned : PlannedFacet} {sortByKey : Bool} {raw : RawFacet} {result : FacetResult}

/-- A terms facet is reported as buckets; sorting them is the only thing that the flag does. -/
theorem exists_buckets_of_terms
    {size : UInt64}
    (kind : planned.kind = .terms size)
    (made : planned.result sortByKey raw = .ok result) :
    ∃ buckets,
      raw = .buckets buckets ∧
        result =
          .buckets (if sortByKey then FacetBucket.sort (buckets.map FacetBucket.ofRaw)
            else buckets.map FacetBucket.ofRaw) := by
  cases raw with
  | stats stats =>
      simp [PlannedFacet.result, kind] at made
  | buckets buckets =>
      simp only [PlannedFacet.result, kind, Except.ok.injEq] at made
      exact ⟨buckets, rfl, made.symm⟩

/-- Facets on ranges and statistics have nothing to sort. -/
theorem result_eq_of_not_terms
    (notTerms : ∀ size, planned.kind ≠ .terms size) :
    planned.result true raw = planned.result false raw := by
  cases kind : planned.kind with
  | terms size =>
      exact (notTerms size kind).elim
  | range | stats =>
      cases raw <;> simp only [PlannedFacet.result, kind]

/--
What is reported for a planned facet in two answers that may differ in the
order of the buckets of terms facets, and in nothing else.
-/
inductive IsReordered
    (planned : PlannedFacet) :
    Option RawFacet → Option RawFacet → Prop where
  | same {raw : Option RawFacet} : IsReordered planned raw raw
  | terms {size : UInt64} {buckets buckets' : List RawBucket} :
      planned.kind = .terms size →
      buckets.Perm buckets' →
      IsReordered planned (some (.buckets buckets)) (some (.buckets buckets'))

/--
The results of a planned facet without and with sorting.  A terms facet shows
the reported buckets by the count of whole documents where there is one, and
sorting puts the same buckets in order; any other facet has one result.
-/
inductive Arranges
    (planned : PlannedFacet) :
    Option RawFacet → Option FacetResult → Option FacetResult → Prop where
  | terms {size : UInt64} {reported : List RawBucket} {sorted : List FacetBucket} :
      planned.kind = .terms size →
      sorted.Perm (reported.map FacetBucket.ofRaw) →
      sorted.Pairwise FacetBucket.IsBefore →
      Arranges planned (some (.buckets reported))
        (some (.buckets (reported.map FacetBucket.ofRaw))) (some (.buckets sorted))
  | unsorted {raw : RawFacet} {result : FacetResult} :
      (∀ size, planned.kind ≠ .terms size) →
      Arranges planned (some raw) (some result) (some result)

/-- From the same report, the results without and with sorting differ as said. -/
theorem arranges_of_result
    {unsorted sorted : FacetResult}
    (unsortedMade : planned.result false raw = .ok unsorted)
    (made : planned.result true raw = .ok sorted) :
    planned.Arranges (some raw) (some unsorted) (some sorted) := by
  by_cases terms : ∃ size, planned.kind = .terms size
  · obtain ⟨size, kind⟩ := terms
    obtain ⟨buckets, rfl, rfl⟩ := exists_buckets_of_terms kind unsortedMade
    obtain ⟨buckets', same, rfl⟩ := exists_buckets_of_terms kind made
    obtain rfl := RawFacet.buckets.inj same
    exact .terms kind FacetBucket.perm_sort FacetBucket.pairwise_sort
  · have notTerms : ∀ size, planned.kind ≠ .terms size :=
      fun size kind => terms ⟨size, kind⟩
    rw [result_eq_of_not_terms notTerms, unsortedMade] at made
    obtain rfl : unsorted = sorted := Except.ok.inj made
    exact .unsorted notTerms

/-- The order of a terms facet's buckets does not show once they are sorted. -/
theorem result_eq_of_perm
    {size : UInt64}
    {buckets buckets' : List RawBucket}
    (kind : planned.kind = .terms size)
    (reordered : buckets.Perm buckets') :
    planned.result true (.buckets buckets) = planned.result true (.buckets buckets') := by
  simp only [PlannedFacet.result, kind, if_true]
  rw [FacetBucket.sort_eq_of_perm (reordered.map FacetBucket.ofRaw)]

end PlannedFacet

/-- A planned facet is the last of its name, so that its result is the one that is kept. -/
def Plan.Keeps
    (plan : Plan)
    (planned : PlannedFacet) :
    Prop :=
  ∃ before after,
    plan.facets = before ++ planned :: after ∧ ∀ later ∈ after, later.facet ≠ planned.facet

namespace FacetResults

variable
  {reported reordered : List (String × RawFacet)}
  {sortByKey : Bool}
  {facets before after : List PlannedFacet}
  {planned : PlannedFacet}
  {results collected : FacetResults}

/-- Facets of other names leave a result as it is. -/
theorem lookup?_of_collect_others
    {name : String}
    (others : ∀ planned ∈ facets, planned.facet ≠ name)
    (succeeds : collect reported sortByKey facets results = .ok collected) :
    Entries.lookup? name collected = Entries.lookup? name results := by
  induction facets generalizing results with
  | nil =>
      obtain rfl : results = collected := Except.ok.inj succeeds
      rfl
  | cons planned rest inductionHypothesis =>
      obtain ⟨otherName, restOthers⟩ := List.forall_mem_cons.mp others
      obtain ⟨raw, result, -, -, restSucceeds⟩ := collect_cons_eq_ok_iff.mp succeeds
      rw [inductionHypothesis restOthers restSucceeds, Entries.lookup?_insert,
        if_neg otherName.symm]

/-- The result of the last facet of a name is found under the name. -/
theorem exists_result_of_collect
    (others : ∀ later ∈ after, later.facet ≠ planned.facet)
    (succeeds : collect reported sortByKey (before ++ planned :: after) results = .ok collected) :
    ∃ raw result,
      Entries.lookup? planned.facet reported = some raw ∧
        planned.result sortByKey raw = .ok result ∧
        Entries.lookup? planned.facet collected = some result := by
  induction before generalizing results with
  | nil =>
      obtain ⟨raw, result, found, made, restSucceeds⟩ := collect_cons_eq_ok_iff.mp succeeds
      refine ⟨raw, result, found, made, ?_⟩
      rw [lookup?_of_collect_others others restSucceeds, Entries.lookup?_insert, if_pos rfl]
  | cons first rest inductionHypothesis =>
      obtain ⟨raw, result, -, -, restSucceeds⟩ := collect_cons_eq_ok_iff.mp succeeds
      exact inductionHypothesis restSucceeds

/-- The names of the results are those of the facets, whatever is reported. -/
theorem names_of_collect
    (succeeds : collect reported sortByKey facets [] = .ok collected) :
    collected.map Prod.fst =
      (Entries.ofList (facets.map fun planned => (planned.facet, ()))).map Prod.fst := by
  obtain ⟨-, entries, names, rfl⟩ := entries_of_collect succeeds
  have bare :
      facets.map (fun planned => (planned.facet, ())) =
        entries.map (Prod.map id fun _ => ()) := by
    have named := congrArg (List.map fun name => (name, ())) names
    rw [List.map_map, List.map_map] at named
    exact named.symm
  rw [bare, Entries.ofList_map, List.map_map]
  rfl

/-- Whether results can be collected does not depend on how they are sorted. -/
theorem exists_collect_unsorted
    {sorted : FacetResults}
    (succeeds : collect reported true facets [] = .ok sorted) :
    ∃ unsorted, collect reported false facets [] = .ok unsorted := by
  cases outcome : collect reported false facets [] with
  | ok unsorted =>
      exact ⟨unsorted, rfl⟩
  | error fault =>
      have mismatch := (collect_eq_error_iff false).mp outcome
      rw [(collect_eq_error_iff true).mpr mismatch] at succeeds
      cases succeeds

/-- Answers that differ in the order of terms are collected alike once terms are sorted. -/
theorem collect_eq_of_reordered
    (isReordered :
      ∀ planned ∈ facets,
        planned.IsReordered (Entries.lookup? planned.facet reported)
          (Entries.lookup? planned.facet reordered)) :
    collect reported true facets results = collect reordered true facets results := by
  induction facets generalizing results with
  | nil =>
      rfl
  | cons planned rest inductionHypothesis =>
      obtain ⟨first, others⟩ := List.forall_mem_cons.mp isReordered
      simp only [collect, inductionHypothesis others]
      generalize Entries.lookup? planned.facet reported = raw at first
      generalize Entries.lookup? planned.facet reordered = raw' at first
      cases first with
      | same =>
          rfl
      | terms kind permuted =>
          simp only [PlannedFacet.result_eq_of_perm kind permuted]

/--
Facets whose buckets are sorted do not depend on the engine's order.  An answer
that is accepted with sorting is accepted without it, with results of the same
names that differ by the arrangement of terms only.  And had the engine put the
buckets of terms facets in any other order, the sorted results would be the
same.
-/
theorem sorted_terms_forget_reported_order
    {plan : Plan}
    {sorted : FacetResults}
    (accepted : ofAnswer plan reported true = .ok sorted) :
    (∃ unsorted,
        ofAnswer plan reported false = .ok unsorted ∧
          sorted.map Prod.fst = unsorted.map Prod.fst ∧
          ∀ planned,
            plan.Keeps planned →
              planned.Arranges (Entries.lookup? planned.facet reported)
                (Entries.lookup? planned.facet unsorted)
                (Entries.lookup? planned.facet sorted)) ∧
      ∀ reordered,
        (∀ planned ∈ plan.facets,
            planned.IsReordered (Entries.lookup? planned.facet reported)
              (Entries.lookup? planned.facet reordered)) →
          ofAnswer plan reordered true = .ok sorted := by
  have collected := ofAnswer_eq_ok_iff.mp accepted
  constructor
  · obtain ⟨unsorted, unsortedCollected⟩ := exists_collect_unsorted collected
    refine ⟨unsorted, ofAnswer_eq_ok_iff.mpr unsortedCollected, ?_, ?_⟩
    · rw [names_of_collect collected, names_of_collect unsortedCollected]
    · intro planned keeps
      obtain ⟨before, after, split, others⟩ := keeps
      rw [split] at collected unsortedCollected
      obtain ⟨raw, result, found, made, shown⟩ := exists_result_of_collect others collected
      obtain ⟨raw', unsortedResult, found', unsortedMade, unsortedShown⟩ :=
        exists_result_of_collect others unsortedCollected
      obtain rfl : raw = raw' := Option.some.inj (found.symm.trans found')
      rw [found, shown, unsortedShown]
      exact PlannedFacet.arranges_of_result unsortedMade made
  · intro reordered isReordered
    rw [ofAnswer_eq_ok_iff, ← collect_eq_of_reordered isReordered]
    exact collected

/-- The genders of donors, and how many of them are minors. -/
def gendersAndMinors : Plan where
  index := "cases"
  filter := .matchAll
  facets := [
    { facet := "donors__gender", field := "donors.gender", filter := .matchAll,
      nested := ["donors"], kind := .terms 100 },
    { facet := "donors__age", field := "donors.age", filter := .matchAll,
      nested := ["donors"]
      kind := .range [
        { key := "minors"
          clause := .range "donors.age" none (some (.openEnd (.int 18))) },
        { key := "adults", clause := .range "donors.age" (some (.closed (.int 18))) none }] }]
  page := { sort := [], start := 0, size := 0 }
  sourceFields := []

/-- A report on genders and ages, with the buckets of the genders as given. -/
def reportOn (genders : List RawBucket) : List (String × RawFacet) := [
  ("donors__age", .buckets [
    { key := "", count := 2, rootCount := some 1 },
    { key := "", count := 14, rootCount := some 9 }]),
  ("donors__gender", .buckets genders)]

/-- Genders in the order of donors; by cases, the second and the third are even. -/
def gendersByDonors : List RawBucket := [
  { key := "male", count := 8, rootCount := some 4 },
  { key := "female", count := 6, rootCount := some 4 },
  { key := "unknown", count := 5, rootCount := some 5 }]

/-- The sorted results on genders and ages; the minors stay in front. -/
def sortedGendersAndMinors : FacetResults := [
  ("donors__age", .buckets [{ key := "minors", count := 1 }, { key := "adults", count := 9 }]),
  ("donors__gender", .buckets [
    { key := "unknown", count := 5 }, { key := "female", count := 4 },
    { key := "male", count := 4 }])]

/-- The genders are shown by cases, in whatever order they come. -/
theorem sorted_genders_forget_reported_order :
    ofAnswer gendersAndMinors (reportOn gendersByDonors) true = .ok sortedGendersAndMinors ∧
      (∃ unsorted,
        ofAnswer gendersAndMinors (reportOn gendersByDonors) false = .ok unsorted ∧
          unsorted ≠ sortedGendersAndMinors) ∧
      ofAnswer gendersAndMinors (reportOn gendersByDonors.reverse) true =
        .ok sortedGendersAndMinors := by
  have accepted :
      ofAnswer gendersAndMinors (reportOn gendersByDonors) true =
        .ok sortedGendersAndMinors := by
    decide +kernel
  obtain ⟨⟨unsorted, unsortedAccepted, -, -⟩, forgets⟩ :=
    sorted_terms_forget_reported_order accepted
  refine ⟨accepted, ⟨unsorted, unsortedAccepted, ?_⟩, forgets _ ?_⟩
  · rintro rfl
    revert unsortedAccepted
    decide +kernel
  · intro planned member
    simp only [gendersAndMinors, List.mem_cons, List.not_mem_nil, or_false] at member
    rcases member with rfl | rfl
    · exact .terms rfl (List.reverse_perm gendersByDonors).symm
    · exact .same

end FacetResults

end FacetSearch
