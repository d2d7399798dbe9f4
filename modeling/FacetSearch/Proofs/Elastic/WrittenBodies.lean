import FacetSearch.Elastic.Body
import FacetSearch.Proofs.Elastic.WrittenQueries
import FacetSearch.Proofs.Search.Execution
import FacetSearch.Proofs.Search.Inputs
import FacetSearch.Proofs.Sqon.Conditions

namespace FacetSearch

/-!
# Bodies on the wire

A rendered body is read back from what is written for it, at every depth of its
queries, its towers of aggregations and its nested sorts.  All that could be
lost on the way is what a clause compares with.  A compiled filter compares with
scalars, and the bounds of a requested range were not `null` when the request
was read, so no plan of a request loses anything.
-/

open Encoding

/-- The clauses of the buckets of a kind. -/
def PlannedKind.clauses : PlannedKind → List Clause
  | .range buckets => buckets.map RangeBucket.clause
  | .terms _ | .stats => []

/-- What the clauses of a facet compare with is written as it is. -/
structure PlannedFacet.IsLegible (facet : PlannedFacet) : Prop where
  filter : ∀ condition ∈ facet.filter.conditions, condition.IsLegible
  buckets : ∀ condition ∈ Clause.conditionsOf facet.kind.clauses, condition.IsLegible

/-- What the clauses of a plan compare with is written as it is. -/
structure Plan.IsLegible (plan : Plan) : Prop where
  filter : ∀ condition ∈ plan.filter.conditions, condition.IsLegible
  facets : ∀ facet ∈ plan.facets, facet.IsLegible

section Legible

variable {registry : Registry} {field : Field}

/-- What a field can hold is a scalar. -/
theorem Json.isGiven_of_fits
    {type : FieldType}
    {value : Json}
    (fitting : Sqon.fits type value = true) :
    value.IsGiven := by
  cases value with
  | bool | number | string =>
      exact ⟨rfl, rfl⟩
  | null | array | object =>
      simp [Sqon.fits] at fitting

/-- A range is legible when it is made of bounds that are given, at either end. -/
theorem Clause.isLegible_range
    {path : String}
    {lower upper : Option Json}
    {lowerEnd upperEnd : Json → Bound}
    (lowerKept : ∀ value, (lowerEnd value).value = value)
    (upperKept : ∀ value, (upperEnd value).value = value)
    (lowerGiven : ∀ value ∈ lower, value.IsGiven)
    (upperGiven : ∀ value ∈ upper, value.IsGiven) :
    (range path (lower.map lowerEnd) (upper.map upperEnd)).IsLegible := by
  constructor
  · intro bound isBound
    obtain ⟨value, isValue, rfl⟩ := Option.map_eq_some_iff.mp isBound
    rw [lowerKept]
    exact lowerGiven value isValue
  · intro bound isBound
    obtain ⟨value, isValue, rfl⟩ := Option.map_eq_some_iff.mp isBound
    rw [upperKept]
    exact upperGiven value isValue

theorem Clause.isLegible_of_tests
    {condition : Clause}
    (tests : Sqon.Compiler.Tests field condition) :
    condition.IsLegible := by
  cases tests with
  | term holdsValues nonempty fitting =>
      intro value member
      exact (Json.isGiven_of_fits (fitting value member)).normal
  | range rangeable bounded lowerFits upperFits =>
      exact isLegible_range (fun _ => rfl) (fun _ => rfl)
        (fun value isLower => Json.isGiven_of_fits (lowerFits value isLower))
        fun value isUpper => Json.isGiven_of_fits (upperFits value isUpper)
  | present | wildcard =>
      trivial

theorem Sqon.isLegible_of_compileOptional
    {limit : Nat}
    {sqon : Option Sqon}
    {clause : Clause}
    (compiled : compileOptional registry limit sqon = .ok clause) :
    ∀ condition ∈ clause.conditions, condition.IsLegible := by
  cases sqon with
  | none =>
      obtain rfl : .matchAll = clause := Except.ok.inj compiled
      simp [Clause.conditions]
  | some sqon =>
      intro condition member
      obtain ⟨field, -, tests⟩ := tests_of_compile compiled condition member
      exact Clause.isLegible_of_tests tests

/-- A bucket has one condition, which compares with the bounds of its range. -/
theorem RangeSpec.isLegible_bucket
    {path : String}
    {last : Bool}
    {range : RangeSpec}
    (normal : range.IsNormal) :
    ∀ condition ∈ (range.bucket path last).clause.conditions, condition.IsLegible := by
  intro condition member
  rw [bucket] at member
  split at member
  case h_1 =>
      obtain rfl := List.mem_singleton.mp member
      trivial
  case h_2 =>
      obtain rfl := List.mem_singleton.mp member
      have upperKept :
          ∀ value, ((if last then Bound.closed else Bound.openEnd) value).value = value := by
        cases last <;> exact fun _ => rfl
      exact Clause.isLegible_range (fun _ => rfl) upperKept normal.lower normal.upper

theorem RangeSpec.isLegible_buckets
    {path : String}
    {ranges : List RangeSpec}
    (normal : ∀ range ∈ ranges, range.IsNormal) :
    ∀ condition ∈ Clause.conditionsOf ((buckets path ranges).map RangeBucket.clause),
      condition.IsLegible := by
  induction ranges with
  | nil =>
      simp [buckets, Clause.conditionsOf]
  | cons range rest inductionHypothesis =>
      obtain ⟨rangeNormal, restNormal⟩ := List.forall_mem_cons.mp normal
      cases rest with
      | nil =>
          simpa [buckets, Clause.conditionsOf] using isLegible_bucket rangeNormal
      | cons next others =>
          rw [buckets, List.map_cons, Clause.conditionsOf, List.forall_mem_append]
          · exact ⟨isLegible_bucket rangeNormal, inductionHypothesis restNormal⟩
          · simp

/-- A facet of a request is planned with clauses that are legible. -/
theorem FacetSpec.isLegible_of_plan
    {settings : FacetSettings}
    {limit : Nat}
    {filter : Option Sqon}
    {facet : FacetSpec}
    {place : Location}
    {planned : PlannedFacet}
    (normal : facet.IsNormal)
    (plans : facet.plan registry settings limit filter place = .ok planned) :
    planned.IsLegible := by
  obtain ⟨field, kind, clause, -, plansKind, compiled, rfl⟩ := plan_eq_ok_iff.mp plans
  refine ⟨Sqon.isLegible_of_compileOptional compiled, ?_⟩
  obtain ⟨name, requested⟩ := facet
  cases requested with
  | terms size =>
      rw [planKind] at plansKind
      split at plansKind
      · cases plansKind
      · obtain ⟨planned, -, rfl⟩ := Sqon.Compiler.map_eq_ok_iff.mp plansKind
        simp [PlannedKind.clauses, Clause.conditionsOf]
  | range ranges =>
      rw [planKind] at plansKind
      split at plansKind
      · cases plansKind
      split at plansKind
      · cases plansKind
      · obtain rfl := Except.ok.inj plansKind
        exact RangeSpec.isLegible_buckets normal
  | stats =>
      rw [planKind] at plansKind
      split at plansKind
      · cases plansKind
      · obtain rfl := Except.ok.inj plansKind
        simp [PlannedKind.clauses, Clause.conditionsOf]

theorem FacetSpec.isLegible_of_planAfter
    {settings : FacetSettings}
    {limit : Nat}
    {filter : Option Sqon}
    {facets : List FacetSpec}
    {earlier : List String}
    {position : Nat}
    {planned : List PlannedFacet}
    (normal : ∀ facet ∈ facets, facet.IsNormal)
    (plans : planAfter registry settings limit filter earlier position facets = .ok planned) :
    ∀ facet ∈ planned, facet.IsLegible := by
  induction facets generalizing earlier position planned with
  | nil =>
      obtain rfl : [] = planned := Except.ok.inj plans
      simp
  | cons facet rest inductionHypothesis =>
      obtain ⟨facetNormal, restNormal⟩ := List.forall_mem_cons.mp normal
      obtain ⟨-, first, others, plansFirst, plansRest, rfl⟩ := planAfter_cons_eq_ok_iff.mp plans
      exact List.forall_mem_cons.mpr
        ⟨isLegible_of_plan facetNormal plansFirst, inductionHypothesis restNormal plansRest⟩

/-- Every plan of a request that was read is legible. -/
theorem SearchService.isLegible_of_plan
    {service : SearchService}
    {request : SearchRequest}
    {plan : Plan}
    (normal : request.IsNormal)
    (plans : service.plan request = .ok plan) :
    plan.IsLegible := by
  obtain ⟨prepared, prepares, rfl⟩ := Sqon.Compiler.map_eq_ok_iff.mp plans
  rw [prepare] at prepares
  split at prepares
  · cases prepares
  obtain ⟨sqon, filter, facets, page, fields, -, compiled, plansFacets, -, -, rfl⟩ :=
    SearchRequest.prepare_eq_ok_iff.mp prepares
  exact ⟨Sqon.isLegible_of_compileOptional compiled,
    FacetSpec.isLegible_of_planAfter normal.facets plansFacets⟩

end Legible

namespace Elastic

theorem read?_termsCount
    {count : TermsCount}
    (sorted : ∀ criterion ∈ count.order, Entries.Sorted criterion) :
    TermsCount.read? count.toJson.normalize = some count := by
  have written :
      count.toJson =
        .object (Json.given [
          ("field", some (.string count.field)), ("size", some (.nat count.size.toNat)),
          ("order", listSlot (count.order.map (objectOf .string)))]) := by
    rw [TermsCount.toJson, orderMember, listMember_eq_given]
    rfl
  have order :
      defaulted [] (listOf (mapOf Json.text?))
          ((listSlot (count.order.map (objectOf .string))).map Json.normalize) =
        some count.order :=
    defaulted_listSlot fun criterion member =>
      mapOf_map_normalize (sorted criterion member) fun _ _ => rfl
  rw [written, TermsCount.read?, record?_given rfl]
  simp only [List.map_cons, List.map_nil, Option.map_some, Json.normalize_string,
    Json.normalize_nat, Json.unsigned64?_nat, Option.bind_eq_bind, Option.bind_some, required,
    Encoding.text?, Json.text?, order]

namespace Aggregation

theorem textRecord?_textObject
    (name text : String) :
    textRecord? name (textObject name text).normalize = some text := by
  have found : record? [[name]] (textObject name text).normalize = some [some (.string text)] := by
    have picks :
        ([[name]].map fun names =>
            [(name, some (Json.string text))].filter fun slot => names.contains slot.1) =
          [(name, some (Json.string text))].map fun slot => [slot] := by
      simp
    exact record?_given picks
  rw [textRecord?, found]
  rfl

theorem membersOf_eq_map
    (inner : List (String × Aggregation)) :
    membersOf inner = inner.map fun step => (step.1, step.2.toJson) := by
  induction inner with
  | nil =>
      rfl
  | cons step rest inductionHypothesis =>
      rw [membersOf, inductionHypothesis, List.map_cons]

/-- Named aggregations as a slot that is left out when there are none. -/
def innerSlot (inner : List (String × Aggregation)) : Option Json :=
  if inner.isEmpty then none else some (objectOf toJson inner)

theorem innerMember_eq_given
    (inner : List (String × Aggregation)) :
    innerMember inner = Json.given [("aggs", innerSlot inner)] := by
  cases inner with
  | nil =>
      rfl
  | cons step rest =>
      rw [innerMember, membersOf_eq_map]
      rfl

/-- Named aggregations are read back when each of them is, within the height of their record. -/
theorem defaulted_innerSlot
    {read : Json → Option Aggregation}
    {inner : List (String × Aggregation)}
    (sorted : Entries.Sorted inner)
    (reads : ∀ step ∈ inner, read step.2.toJson.normalize = some step.2) :
    defaulted [] (mapOf read) ((innerSlot inner).map Json.normalize) = some inner := by
  cases inner with
  | nil =>
      rfl
  | cons step rest =>
      exact mapOf_map_normalize sorted reads

theorem height_lt_of_innerSlot
    {slots : List (String × Option Json)}
    {inner : List (String × Aggregation)}
    {step : String × Aggregation}
    (sorted : Entries.Sorted inner)
    (picked : slots.filter (fun slot => ["aggs"].contains slot.1) = [("aggs", innerSlot inner)])
    (member : step ∈ inner) :
    step.2.toJson.normalize.height < (Json.object (Json.given slots)).normalize.height := by
  have isObject : innerSlot inner = some (objectOf toJson inner) := by
    rw [innerSlot, if_neg (by simpa using List.ne_nil_of_mem member)]
  have writtenSorted :
      Entries.Sorted (inner.map fun step => (step.1, step.2.toJson)) :=
    List.pairwise_map.mpr sorted
  have inObject : step.2.toJson.normalize.height < (objectOf toJson inner).normalize.height := by
    have isMember :
        (step.1, step.2.toJson.normalize) ∈
          (inner.map fun step => (step.1, step.2.toJson)).map (Prod.map id Json.normalize) :=
      List.mem_map.mpr ⟨_, List.mem_map.mpr ⟨step, member, rfl⟩, rfl⟩
    rw [objectOf, Json.normalize, Json.normalizeMembers_of_sorted writtenSorted]
    exact Json.height_lt_of_mem_members isMember
  exact Nat.lt_trans inObject (height_lt_of_given (picked.trans (by rw [isObject])))

/-- The parts of an aggregation that are given are read back. -/
structure PartsReadBack (aggregation : Aggregation) : Prop where
  filter : ∀ query ∈ aggregation.filter, ReadsBack Query.readWithin? Query.toJson query
  terms : ∀ count ∈ aggregation.terms, ∀ criterion ∈ count.order, Entries.Sorted criterion
  filters :
    ∀ queries ∈ aggregation.filters, ∀ query ∈ queries,
      ReadsBack Query.readWithin? Query.toJson query
  sorted : Entries.Sorted aggregation.inner
  inner : ∀ step ∈ aggregation.inner, ReadsBack readWithin? toJson step.2

theorem filters?_filtersObject
    {queries : List Query}
    (reads : ∀ query ∈ queries, ReadsBack Query.readWithin? Query.toJson query) :
    filters? (Json.object [("filters", .array (queries.map Query.toJson))]).normalize =
      some queries := by
  have written :
      Json.object [("filters", .array (queries.map Query.toJson))] =
        .object (Json.given [("filters", some (.array (queries.map Query.toJson)))]) :=
    rfl
  have listed :
      listOf Query.read? (Json.array (queries.map Query.toJson)).normalize = some queries :=
    listOf_map_normalize fun query member => Query.read?_of_readsBack (reads query member)
  rw [written, filters?, record?_given rfl]
  simp only [List.map_cons, List.map_nil, Option.map_some, Option.bind_eq_bind, Option.bind_some,
    required, listed]

/-- A mark as a slot that holds an empty object, or is left out. -/
def markSlot (isSet : Bool) : Option Json :=
  if isSet then some (.object []) else none

theorem exists_optional_markSlot
    (isSet : Bool) :
    ∃ mark, optional (record? []) ((markSlot isSet).map Json.normalize) = some mark ∧
      mark.isSome = isSet := by
  cases isSet
  · exact ⟨none, rfl, rfl⟩
  · exact ⟨some [], rfl, rfl⟩

theorem toJson_eq_given
    (aggregation : Aggregation) :
    aggregation.toJson =
      .object (Json.given [
        ("filter", aggregation.filter.map Query.toJson),
        ("nested", aggregation.nested.map (textObject "path")),
        ("reverse_nested", markSlot aggregation.reverseNested),
        ("terms", aggregation.terms.map TermsCount.toJson),
        ("filters",
          aggregation.filters.map fun queries =>
            .object [("filters", .array (queries.map Query.toJson))]),
        ("stats", aggregation.stats.map (textObject "field")),
        ("aggs", innerSlot aggregation.inner)]) := by
  obtain ⟨filter, nested, reverseNested, terms, filters, stats, inner⟩ := aggregation
  have mark :
      (if reverseNested then [("reverse_nested", Json.object [])] else []) =
        Json.given [("reverse_nested", markSlot reverseNested)] := by
    cases reverseNested <;> rfl
  simp only [toJson, Json.optionalMember_eq_given, mark, innerMember_eq_given,
    ← Json.given_append, List.cons_append, List.nil_append]

theorem readsBack_of_parts
    {aggregation : Aggregation}
    (parts : aggregation.PartsReadBack) :
    ReadsBack readWithin? toJson aggregation := by
  obtain ⟨filter, nested, reverseNested, terms, filters, stats, inner⟩ := aggregation
  have filterReads :
      optional Query.read? ((filter.map Query.toJson).map Json.normalize) = some filter :=
    optional_map_normalize
      (fun query given => Query.read?_of_readsBack (parts.filter query given))
      fun query _ => query.toJson_ne_null
  have nestedReads :
      optional (textRecord? "path") ((nested.map (textObject "path")).map Json.normalize) =
        some nested :=
    optional_map_normalize (fun path _ => textRecord?_textObject "path" path) fun _ _ => rfl
  have termsReads :
      optional TermsCount.read? ((terms.map TermsCount.toJson).map Json.normalize) =
        some terms :=
    optional_map_normalize (fun count given => read?_termsCount (parts.terms count given))
      fun _ _ => rfl
  have filtersReads :
      optional filters?
          ((filters.map fun queries =>
            Json.object [("filters", .array (queries.map Query.toJson))]).map Json.normalize) =
        some filters :=
    optional_map_normalize
      (fun queries given => filters?_filtersObject (parts.filters queries given))
      fun _ _ => rfl
  have statsReads :
      optional (textRecord? "field") ((stats.map (textObject "field")).map Json.normalize) =
        some stats :=
    optional_map_normalize (fun field _ => textRecord?_textObject "field" field) fun _ _ => rfl
  obtain ⟨mark, markReads, isMark⟩ := exists_optional_markSlot reverseNested
  apply readsBack_of_succ
  intro height fits
  rw [toJson_eq_given] at fits ⊢
  have innerReads :
      defaulted [] (mapOf (readWithin? height)) ((innerSlot inner).map Json.normalize) =
        some inner := by
    apply defaulted_innerSlot parts.sorted
    intro step member
    refine parts.inner step member height (Nat.le_of_lt_succ (Nat.lt_of_lt_of_le ?_ fits))
    exact height_lt_of_innerSlot parts.sorted rfl member
  rw [readWithin?, record?_given rfl]
  simp only [List.map_cons, List.map_nil, Option.bind_eq_bind, Option.bind_some, filterReads,
    nestedReads, markReads, isMark, termsReads, filtersReads, statsReads, innerReads]

theorem read?_of_readsBack
    {aggregation : Aggregation}
    (reads : ReadsBack readWithin? toJson aggregation) :
    read? aggregation.toJson.normalize = some aggregation :=
  reads _ (Nat.le_refl _)

theorem readsBack_rootCount
    {isNested : Bool} :
    Entries.Sorted (rootCount isNested) ∧
      ∀ step ∈ rootCount isNested, ReadsBack readWithin? toJson step.2 := by
  cases isNested with
  | false =>
      exact ⟨List.Pairwise.nil, by simp [rootCount]⟩
  | true =>
      refine ⟨List.pairwise_singleton _ _, List.forall_mem_singleton.mpr ?_⟩
      exact readsBack_of_parts
        { filter := by simp [blank]
          terms := by simp [blank]
          filters := by simp [blank]
          sorted := List.Pairwise.nil
          inner := by simp [blank] }

/-- The aggregation that counts is read back when the clauses of its buckets are legible. -/
theorem readsBack_counting
    {field : String}
    {isNested : Bool}
    {kind : PlannedKind}
    (legible : ∀ condition ∈ Clause.conditionsOf kind.clauses, condition.IsLegible) :
    ReadsBack readWithin? toJson (counting field isNested kind) := by
  obtain ⟨sorted, rootReads⟩ := @readsBack_rootCount isNested
  cases kind with
  | terms size =>
      exact readsBack_of_parts
        { filter := by simp [counting, blank]
          terms := by
            cases isNested <;> simp [counting, termsOrder, Entries.Sorted]
          filters := by simp [counting, blank]
          sorted
          inner := rootReads }
  | range buckets =>
      exact readsBack_of_parts
        { filter := by simp [counting, blank]
          terms := by simp [counting, blank]
          filters := by
            rintro queries ⟨rfl⟩
            exact Query.readsBack_ofClauses _ legible
          sorted
          inner := rootReads }
  | stats =>
      exact readsBack_of_parts
        { filter := by simp [counting, blank]
          terms := by simp [counting, blank]
          filters := by simp [counting, blank]
          sorted := List.Pairwise.nil
          inner := by simp [counting, blank] }

theorem readsBack_descend
    {path : String}
    {inner : Aggregation}
    (reads : ReadsBack readWithin? toJson inner) :
    ReadsBack readWithin? toJson (descend path inner) :=
  readsBack_of_parts
    { filter := by simp [descend, blank]
      terms := by simp [descend, blank]
      filters := by simp [descend, blank]
      sorted := List.pairwise_singleton _ _
      inner := List.forall_mem_singleton.mpr reads }

/-- The tower of a facet is read back, however deep the nested field is that it counts. -/
theorem readsBack_tower
    {chain : List String}
    {bottom : Aggregation}
    (reads : ReadsBack readWithin? toJson bottom) :
    ReadsBack readWithin? toJson (chain.foldr descend bottom) := by
  induction chain with
  | nil =>
      exact reads
  | cons path rest inductionHypothesis =>
      exact readsBack_descend inductionHypothesis

theorem readsBack_ofFacet
    {facet : PlannedFacet}
    (legible : facet.IsLegible) :
    ReadsBack readWithin? toJson (ofFacet facet) :=
  readsBack_of_parts
    { filter := by
        rintro query ⟨rfl⟩
        exact Query.readsBack_ofClause facet.filter legible.filter
      terms := by simp [ofFacet, blank]
      filters := by simp [ofFacet, blank]
      sorted := List.pairwise_singleton _ _
      inner :=
        List.forall_mem_singleton.mpr (readsBack_tower (readsBack_counting legible.buckets)) }

end Aggregation

namespace NestedSort

theorem toJson_eq_given
    (path : String)
    (inner : Option NestedSort) :
    (step path inner).toJson =
      .object (Json.given [("path", some (.string path)), ("nested", inner.map toJson)]) := by
  cases inner <;> rfl

theorem toJson_ne_null
    (sort : NestedSort) :
    sort.toJson.isNull = false := by
  obtain ⟨path, _ | inner⟩ := sort <;> rfl

theorem readsBack_step
    {path : String}
    {inner : Option NestedSort}
    (reads : ∀ sort ∈ inner, ReadsBack readWithin? toJson sort) :
    ReadsBack readWithin? toJson (step path inner) := by
  apply readsBack_of_succ
  intro height fits
  rw [toJson_eq_given] at fits ⊢
  have innerReads :
      optional (readWithin? height) ((inner.map toJson).map Json.normalize) = some inner := by
    refine optional_map_normalize ?_ fun sort _ => sort.toJson_ne_null
    rintro sort rfl
    refine reads sort rfl height (Nat.le_of_lt_succ (Nat.lt_of_lt_of_le ?_ fits))
    exact @height_lt_of_given "nested" _ _ rfl
  rw [readWithin?, record?_given rfl]
  simp only [List.map_cons, List.map_nil, Option.map_some, Json.normalize_string,
    Option.bind_eq_bind, Option.bind_some, required, Encoding.text?, Json.text?, innerReads]

theorem readsBack :
    ∀ sort : NestedSort, ReadsBack readWithin? toJson sort
  | .step _ none => readsBack_step (by simp)
  | .step _ (some inner) => readsBack_step (by rintro _ ⟨rfl⟩; exact readsBack inner)

end NestedSort

theorem SortOrder.read?_toJson
    (order : SortOrder) :
    SortOrder.read? order.toJson.normalize = some order := by
  have written :
      order.toJson =
        .object (Json.given [
          ("order", some (.string order.order)),
          ("nested", order.nested.map NestedSort.toJson)]) := by
    obtain ⟨_, nested⟩ := order
    cases nested <;> rfl
  have nested :
      optional NestedSort.read? ((order.nested.map NestedSort.toJson).map Json.normalize) =
        some order.nested :=
    optional_map_normalize (fun sort _ => sort.readsBack _ (Nat.le_refl _))
      fun sort _ => sort.toJson_ne_null
  rw [written, SortOrder.read?, record?_given rfl]
  simp only [List.map_cons, List.map_nil, Option.map_some, Json.normalize_string,
    Option.bind_eq_bind, Option.bind_some, required, Encoding.text?, Json.text?, nested]

theorem SourceFilter.read?_toJson
    (source : SourceFilter) :
    SourceFilter.read? source.toJson.normalize = some source := by
  cases source with
  | whole wanted =>
      rfl
  | fields paths =>
      have listed :
          listOf Json.text? (Json.array (paths.map .string)).normalize = some paths :=
        listOf_map_normalize fun _ _ => rfl
      have read :
          SourceFilter.read? (Json.array (paths.map .string)).normalize =
            (listOf Json.text? (Json.array (paths.map .string)).normalize).map .fields :=
        rfl
      rw [SourceFilter.toJson, read, listed]
      rfl

namespace Body

/-- The parts of a body that are given are read back. -/
structure PartsReadBack (body : Body) : Prop where
  query : ReadsBack Query.readWithin? Query.toJson body.query
  postFilter : ∀ query ∈ body.postFilter, ReadsBack Query.readWithin? Query.toJson query
  sort : ∀ key ∈ body.sort, Entries.Sorted key
  sorted : Entries.Sorted body.aggregations
  aggregations :
    ∀ entry ∈ body.aggregations, ReadsBack Aggregation.readWithin? Aggregation.toJson entry.2

theorem read?_of_parts
    {body : Body}
    (parts : body.PartsReadBack) :
    read? body.toJson.normalize = some body := by
  have written :
      body.toJson =
        .object (Json.given [
          ("query", some body.query.toJson),
          ("post_filter", body.postFilter.map Query.toJson),
          ("from", some (.nat body.start.toNat)),
          ("size", some (.nat body.size.toNat)),
          ("sort", listSlot (body.sort.map (objectOf SortOrder.toJson))),
          ("_source", some body.source.toJson),
          ("aggs", Aggregation.innerSlot body.aggregations),
          ("track_total_hits", some (.bool body.trackTotalHits))]) := by
    simp only [toJson, Json.optionalMember_eq_given, listMember_eq_given,
      Aggregation.innerMember_eq_given, Json.singleton_eq_given, Json.cons_given,
      ← Json.given_append, List.cons_append, List.nil_append]
  have postFilter :
      optional Query.read? ((body.postFilter.map Query.toJson).map Json.normalize) =
        some body.postFilter :=
    optional_map_normalize
      (fun query given => Query.read?_of_readsBack (parts.postFilter query given))
      fun query _ => query.toJson_ne_null
  have sort :
      defaulted [] (listOf (mapOf SortOrder.read?))
          ((listSlot (body.sort.map (objectOf SortOrder.toJson))).map Json.normalize) =
        some body.sort :=
    defaulted_listSlot fun key member =>
      mapOf_map_normalize (parts.sort key member) fun entry _ => entry.2.read?_toJson
  have aggregations :
      defaulted [] (mapOf Aggregation.read?)
          ((Aggregation.innerSlot body.aggregations).map Json.normalize) =
        some body.aggregations :=
    Aggregation.defaulted_innerSlot parts.sorted fun entry member =>
      Aggregation.read?_of_readsBack (parts.aggregations entry member)
  rw [written, read?, record?_given rfl]
  simp only [List.map_cons, List.map_nil, Option.map_some, Json.normalize_bool,
    Json.normalize_nat, Json.unsigned64?_nat, Option.bind_eq_bind, Option.bind_some, required,
    Json.bool?, Query.read?_of_readsBack parts.query, postFilter, sort,
    SourceFilter.read?_toJson, aggregations]

theorem partsReadBack_ofPlan
    {plan : Plan}
    (legible : plan.IsLegible) :
    (ofPlan plan).PartsReadBack := by
  have filterReads :
      ReadsBack Query.readWithin? Query.toJson (Query.ofClause plan.filter) :=
    Query.readsBack_ofClause plan.filter legible.filter
  constructor
  case query =>
      rw [ofPlan]
      split
      · exact filterReads
      · exact Query.readsBack_matchAll
  case postFilter =>
      intro query isFilter
      rw [ofPlan] at isFilter
      split at isFilter
      · cases isFilter
      · rw [postFilterOf] at isFilter
        split at isFilter
        · cases isFilter
        · obtain rfl := Option.some.inj isFilter
          exact filterReads
  case sort =>
      intro key member
      obtain ⟨sortKey, -, rfl⟩ := List.mem_map.mp member
      exact List.pairwise_singleton _ _
  case sorted =>
      exact Entries.Sorted.insertAll List.Pairwise.nil
  case aggregations =>
      intro entry member
      rcases Entries.mem_of_mem_insertAll member with ofFacet | inNone
      · obtain ⟨facet, planned, rfl⟩ := List.mem_map.mp ofFacet
        exact Aggregation.readsBack_ofFacet (legible.facets facet planned)
      · cases inNone

end Body

end Elastic

/--
The body of every plan of a request that was read as JSON is read back,
unchanged, from what is written for it.
-/
theorem SearchService.body_survives_wire
    {service : SearchService}
    {value : Json}
    {request : SearchRequest}
    {plan : Plan}
    (taken : SearchRequest.read? value = some request)
    (plans : service.plan request = .ok plan) :
    Elastic.Body.read? (Elastic.Body.ofPlan plan).toJson.normalize =
      some (Elastic.Body.ofPlan plan) := by
  have legible : plan.IsLegible :=
    isLegible_of_plan (SearchRequest.isNormal_of_read? taken) plans
  exact Elastic.Body.read?_of_parts (Elastic.Body.partsReadBack_ofPlan legible)

/-- The plan of open cases by the age of their donors. -/
def openCasesByAgePlan : Plan where
  index := "cases"
  filter := .term "status" [.string "open"]
  facets := [
    { facet := "donors__age", field := "donors.age", filter := .term "status" [.string "open"],
      nested := ["donors"],
      kind := .range [
        { key := "40-*", clause := .range "donors.age" (some (.closed (.nat 40))) none }] }]
  page := {
    sort := [
      { field := "donors.age", direction := .desc, nested := ["donors"] },
      { field := "_id", direction := .asc, nested := [] }]
    start := 0
    size := 20 }
  sourceFields := []

/-- With a facet below the donors and a sort within them, the body is read back. -/
theorem SearchService.body_survives_wire_of_openCasesByAge :
    SearchRequest.read? openCasesSpelt = some openCasesByAge ∧
      ofCases.plan openCasesByAge = .ok openCasesByAgePlan ∧
      Elastic.Body.read? (Elastic.Body.ofPlan openCasesByAgePlan).toJson.normalize =
        some (Elastic.Body.ofPlan openCasesByAgePlan) := by
  have taken : SearchRequest.read? openCasesSpelt = some openCasesByAge := by
    decide +kernel
  have reads :
      openCasesByAge.filter 64 = .ok (some (Sqon.inValues "status" [.string "open"])) := by
    cbv
  have compiled :
      Sqon.compileOptional caseRegistry 64 (some (Sqon.inValues "status" [.string "open"])) =
        .ok openCasesByAgePlan.filter := by
    cbv
  have plansFacets :
      FacetSpec.planAll caseRegistry .standard 64
          (some (Sqon.inValues "status" [.string "open"])) openCasesByAge.facets =
        .ok openCasesByAgePlan.facets := by
    cbv
  have pages :
      caseRegistry.page .standard openCasesByAge.sort openCasesByAge.page =
        .ok openCasesByAgePlan.page := by
    decide +kernel
  have prepares :
      openCasesByAge.prepare ofCases.settings caseRegistry =
        .ok { plan := openCasesByAgePlan, fields := [] } :=
    SearchRequest.prepare_eq_ok_iff.mpr
      ⟨_, _, _, _, _, reads, compiled, plansFacets, pages, rfl, rfl⟩
  have plans : ofCases.plan openCasesByAge = .ok openCasesByAgePlan := by
    have prepared : ofCases.prepare openCasesByAge = _ := prepares
    rw [plan, prepared]
    rfl
  exact ⟨taken, plans, body_survives_wire taken plans⟩

end FacetSearch
