import FacetSearch.Elastic.Outline
import FacetSearch.Proofs.Entries

namespace FacetSearch.Elastic

/-!
# Bodies keep what was planned

Every part of a plan but the names of its range buckets can be read off the
body that it becomes: queries, sorts and towers of aggregations are written so
that they can be taken apart again, and neither a filter that is left out nor
an empty list of source fields is mistaken for anything else.
-/

/-- A list is read item by item when its items are read one by one. -/
theorem mapM_map_eq_some
    {α β γ : Type}
    {write : α → β}
    {read : β → Option γ}
    {result : α → γ}
    (reads : ∀ item, read (write item) = some (result item))
    (items : List α) :
    (items.map write).mapM read = some (items.map result) := by
  have reading : read ∘ write = fun item => pure (result item) := funext reads
  rw [List.mapM_map, reading, List.mapM_pure]
  rfl

/-- The bounds of a range tell the ends that they were written for. -/
theorem endOf?_ofEnds
    (lower upper : Option Bound) :
    endOf? (RangeBounds.ofEnds lower upper).gte (RangeBounds.ofEnds lower upper).gt =
        some lower ∧
      endOf? (RangeBounds.ofEnds lower upper).lte (RangeBounds.ofEnds lower upper).lt =
        some upper := by
  have ofEnd :
      ∀ bound : Option Bound,
        endOf?
            (bound.bind fun bound => if bound.inclusive then some bound.value else none)
            (bound.bind fun bound => if bound.inclusive then none else some bound.value) =
          some bound := by
    intro bound
    match bound with
    | none | some ⟨_, true⟩ | some ⟨_, false⟩ =>
        rfl
  exact ⟨ofEnd lower, ofEnd upper⟩

namespace Query

theorem toClause?_range
    (field : String)
    (lower upper : Option Bound) :
    toClause? (.range [(field, .ofEnds lower upper)]) = some (.range field lower upper) := by
  obtain ⟨lowerEnd, upperEnd⟩ := endOf?_ofEnds lower upper
  simp [toClause?, lowerEnd, upperEnd]

mutual
/-- A query tells the clause that it was written for. -/
theorem toClause?_ofClause :
    ∀ clause : Clause, (ofClause clause).toClause? = some clause
  | .matchAll => rfl
  | .and clauses => by
      rw [ofClause, every, toClause?, toClauses?_ofClauses, Option.map_some]
  | .or clauses => by
      simp [ofClause, atLeastOne, toClause?, toClauses?_ofClauses]
  | .not clause => by
      rw [ofClause, negate, toClause?, toClause?_ofClause, Option.map_some]
  | .term field values => rfl
  | .range field lower upper => toClause?_range field lower upper
  | .present field => rfl
  | .wildcard field pattern caseInsensitive => by
      cases caseInsensitive <;> rfl
  | .nested path clause => by
      rw [ofClause, toClause?, toClause?_ofClause, Option.map_some]

theorem toClauses?_ofClauses :
    ∀ clauses : List Clause, toClauses? (ofClauses clauses) = some clauses
  | [] => rfl
  | clause :: rest => by
      rw [ofClauses, toClauses?, toClause?_ofClause, toClauses?_ofClauses]
      rfl
end

end Query

/-- The steps of a sort tell the chain that they were written for. -/
theorem chain_ofChain
    (chain : List String) :
    ((NestedSort.ofChain chain).map NestedSort.chain).getD [] = chain := by
  induction chain with
  | nil =>
      rfl
  | cons path rest inductionHypothesis =>
      have outermost :
          NestedSort.ofChain (path :: rest) = some (.step path (NestedSort.ofChain rest)) := rfl
      rw [outermost, Option.map_some, Option.getD_some]
      cases inner : NestedSort.ofChain rest with
      | none =>
          rw [inner] at inductionHypothesis
          rw [NestedSort.chain, ← inductionHypothesis, Option.map_none, Option.getD_none]
      | some step =>
          rw [inner, Option.map_some, Option.getD_some] at inductionHypothesis
          rw [NestedSort.chain, inductionHypothesis]

theorem directionOf?_name
    (direction : SortDirection) :
    directionOf? direction.name = some direction := by
  cases direction <;> decide

theorem sortKeyOf?_ofKey
    (key : SortKey) :
    sortKeyOf? (SortOrder.ofKey key) = some key := by
  simp [SortOrder.ofKey, sortKeyOf?, directionOf?_name, chain_ofChain]

theorem paths_ofPaths
    (paths : List String) :
    (SourceFilter.ofPaths paths).paths = paths := by
  cases paths <;> rfl

namespace Aggregation

/-- The aggregation at the bottom tells how a facet counts. -/
theorem descent?_counting
    (field : String)
    (isNested : Bool)
    (kind : PlannedKind) :
    (counting field isNested kind).descent? = some ([], .ofKind field kind) := by
  cases kind with
  | terms size =>
      rfl
  | range buckets =>
      simp [counting, blank, descent?, count?, Query.toClauses?_ofClauses, CountOutline.ofKind]
  | stats =>
      rfl

/-- The steps down a tower are those of the chain that it was built for. -/
theorem descent?_tower
    (chain : List String)
    (field : String)
    (isNested : Bool)
    (kind : PlannedKind) :
    (chain.foldr descend (counting field isNested kind)).descent? =
      some (chain, .ofKind field kind) := by
  induction chain with
  | nil =>
      exact descent?_counting field isNested kind
  | cons path rest inductionHypothesis =>
      rw [List.foldr_cons, descend, blank, descent?, descentOf?, inductionHypothesis,
        Option.map_some]

theorem outline?_ofFacet
    (facet : PlannedFacet) :
    (ofFacet facet).outline? = some (.ofFacet facet) := by
  simp [ofFacet, outline?, Query.toClause?_ofClause, descentOf?, descent?_tower,
    FacetOutline.ofFacet]

end Aggregation

namespace Body

variable {plan : Plan}

/-- A post filter that is left out stands for the query that matches everything. -/
theorem getD_postFilterOf
    (filter : Query) :
    (postFilterOf filter).getD .matchAll = filter := by
  cases filter <;> rfl

theorem aggregations_ofPlan_eq_nil_iff :
    (ofPlan plan).aggregations = [] ↔ plan.facets = [] := by
  rw [ofPlan, Entries.ofList_eq_nil_iff, List.map_eq_nil_iff]

/-- The filter on hits is the filter of the plan, wherever it stands in the body. -/
theorem hitQuery_ofPlan :
    (ofPlan plan).hitQuery = Query.ofClause plan.filter := by
  simp only [hitQuery, List.isEmpty_iff, aggregations_ofPlan_eq_nil_iff]
  split
  case isTrue noFacets =>
      simp [ofPlan, noFacets]
  case isFalse withFacets =>
      simp [ofPlan, withFacets, getD_postFilterOf]

/-- Facets are entered by name, whatever is kept of them. -/
theorem ofList_facets
    {α : Type}
    (kept : PlannedFacet → α) :
    Entries.ofList (plan.facets.map fun facet => (facet.facet, kept facet)) =
      (Entries.ofList (plan.facets.map fun facet => (facet.facet, facet))).map
        (Prod.map id kept) := by
  rw [← Entries.ofList_map, List.map_map]
  rfl

/-- A body tells the outline of its plan. -/
theorem outline?_ofPlan :
    (ofPlan plan).outline? =
      some {
        filter := plan.filter
        page := plan.page
        sourceFields := plan.sourceFields
        facets :=
          Entries.ofList
            (plan.facets.map fun facet => (facet.facet, FacetOutline.ofFacet facet)) } := by
  have sortKept : (ofPlan plan).sort.mapM sortKeyOf? = some plan.page.sort := by
    rw [ofPlan, mapM_map_eq_some sortKeyOf?_ofKey, List.map_id']
  have facetsKept :
      ((ofPlan plan).aggregations.mapM fun entry => do some (entry.1, ← entry.2.outline?)) =
        some (Entries.ofList
          (plan.facets.map fun facet => (facet.facet, FacetOutline.ofFacet facet))) := by
    simp only [ofPlan]
    rw [ofList_facets Aggregation.ofFacet, ofList_facets FacetOutline.ofFacet]
    apply mapM_map_eq_some
    intro entry
    rw [Prod.map_snd, Aggregation.outline?_ofFacet]
    rfl
  rw [outline?, hitQuery_ofPlan, Query.toClause?_ofClause, sortKept, facetsKept]
  simp [ofPlan, paths_ofPaths]

end Body

/--
A body tells the filter of its plan, the page with its sort, the source fields,
and under the name of each facet its filter, its chain and how it counts.  So
plans that become one body agree on all of these.
-/
theorem body_tells_plan :
    (∀ plan : Plan,
      (plan.facets.map PlannedFacet.facet).Nodup →
      ∃ outline,
        (Body.ofPlan plan).outline? = some outline ∧
          outline.filter = plan.filter ∧
          outline.page = plan.page ∧
          outline.sourceFields = plan.sourceFields ∧
          outline.facets.Perm
            (plan.facets.map fun facet => (facet.facet, FacetOutline.ofFacet facet))) ∧
      ∀ plan plan' : Plan,
        (plan.facets.map PlannedFacet.facet).Nodup →
        (plan'.facets.map PlannedFacet.facet).Nodup →
        Body.ofPlan plan = Body.ofPlan plan' →
        plan.filter = plan'.filter ∧
          plan.page = plan'.page ∧
          plan.sourceFields = plan'.sourceFields ∧
          (plan.facets.map fun facet => (facet.facet, FacetOutline.ofFacet facet)).Perm
            (plan'.facets.map fun facet => (facet.facet, FacetOutline.ofFacet facet)) := by
  constructor
  · intro plan distinct
    exact ⟨_, Body.outline?_ofPlan, rfl, rfl, rfl, Entries.perm_ofList_map distinct _⟩
  · intro plan plan' distinct distinct' sameBody
    have sameOutline := congrArg Body.outline? sameBody
    rw [Body.outline?_ofPlan, Body.outline?_ofPlan, Option.some.injEq, Outline.mk.injEq]
      at sameOutline
    obtain ⟨sameFilter, samePage, sameSource, sameFacets⟩ := sameOutline
    refine ⟨sameFilter, samePage, sameSource, ?_⟩
    have told := Entries.perm_ofList_map distinct FacetOutline.ofFacet
    rw [sameFacets] at told
    exact told.symm.trans (Entries.perm_ofList_map distinct' FacetOutline.ofFacet)

/-- The cases with a woman among the donors. -/
def casesOfWomen : Clause :=
  .nested "donors" (.term "donors.gender" [.string "female"])

/-- The open cases with a woman among the donors. -/
def openCasesOfWomen : Clause :=
  .and [.term "status" [.string "open"], casesOfWomen]

/-- Cases of women are counted by status, whether they are open or not. -/
def statusesOfWomen : PlannedFacet where
  facet := "status"
  field := "status"
  filter := casesOfWomen
  nested := []
  kind := .terms 10

/-- The donors of open cases of women are counted by age. -/
def agesOfDonors : PlannedFacet where
  facet := "donors__age"
  field := "donors.age"
  filter := openCasesOfWomen
  nested := ["donors"]
  kind := .range [
    { key := "*-18", clause := .range "donors.age" none (some (.openEnd (.int 18))) },
    { key := "18-*", clause := .range "donors.age" (some (.closed (.int 18))) none }]

/-- Open cases of women, those of the oldest donors first, with two facets. -/
def womenPlan : Plan where
  index := "cases"
  filter := openCasesOfWomen
  facets := [statusesOfWomen, agesOfDonors]
  page := {
    sort := [
      { field := "donors.age", direction := .desc, nested := ["donors"] },
      { field := "_id", direction := .asc, nested := [] }]
    start := 0
    size := 20 }
  sourceFields := ["status"]

/-- The same plan with its facets in another order. -/
def womenPlanReordered : Plan :=
  { womenPlan with facets := [agesOfDonors, statusesOfWomen] }

/-- A plan with its facets in another order has the same body, and facets of the same outlines. -/
theorem body_tells_womenPlan :
    (∃ outline,
      (Body.ofPlan womenPlan).outline? = some outline ∧
        outline.filter = womenPlan.filter ∧
        outline.page = womenPlan.page ∧
        outline.sourceFields = womenPlan.sourceFields ∧
        outline.facets.Perm
          (womenPlan.facets.map fun facet => (facet.facet, FacetOutline.ofFacet facet))) ∧
      Body.ofPlan womenPlanReordered = Body.ofPlan womenPlan ∧
      (womenPlanReordered.facets.map fun facet => (facet.facet, FacetOutline.ofFacet facet)).Perm
        (womenPlan.facets.map fun facet => (facet.facet, FacetOutline.ofFacet facet)) := by
  have distinct : (womenPlan.facets.map PlannedFacet.facet).Nodup := by
    decide
  have distinct' : (womenPlanReordered.facets.map PlannedFacet.facet).Nodup := by
    decide
  have sameBody : Body.ofPlan womenPlanReordered = Body.ofPlan womenPlan := by
    cbv
  have sameParts := body_tells_plan.2 womenPlanReordered womenPlan distinct' distinct sameBody
  exact ⟨body_tells_plan.1 womenPlan distinct, sameBody, sameParts.2.2.2⟩

end FacetSearch.Elastic
