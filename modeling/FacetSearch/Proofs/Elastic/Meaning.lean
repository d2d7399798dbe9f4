import FacetSearch.Elastic.Meaning
import FacetSearch.Proofs.Elastic.Outline

namespace FacetSearch.Elastic

/-!
# Bodies match as planned

A query matches an object exactly when the clause that it was written for holds
of it.  So the hits of a body are the documents that satisfy the filter of the
plan, wherever the filter stands, and every facet sees the documents that
satisfy its own filter, whatever the other facets are.
-/

namespace Query

variable {α : Type} {test : ObjectTest α} {object : DocumentTree α}

theorem matchCount_eq_countP
    (queries : List Query) :
    matchCount test queries object = queries.countP fun query => query.holds test object := by
  induction queries with
  | nil =>
      rfl
  | cons query rest inductionHypothesis =>
      rw [matchCount, inductionHypothesis, List.countP_cons, Nat.add_comm]

theorem holds_every
    (queries : List Query) :
    (every queries).holds test object = queries.all fun query => query.holds test object := by
  rw [Bool.eq_iff_iff]
  simp [every, holds, matchCount_eq_countP, List.countP_eq_length]

theorem holds_atLeastOne
    (queries : List Query) :
    (atLeastOne queries).holds test object = queries.any fun query => query.holds test object := by
  rw [Bool.eq_iff_iff]
  simp [atLeastOne, holds, matchCount_eq_countP, Nat.succ_le_iff, List.countP_pos_iff]

theorem holds_negate
    (query : Query) :
    (negate query).holds test object = !query.holds test object := by
  cases matched : query.holds test object <;>
    simp [negate, holds, matchCount_eq_countP, matched]

mutual
/-- A query matches the objects of which its clause holds. -/
theorem holds_ofClause :
    ∀ (clause : Clause) (object : DocumentTree α),
      (ofClause clause).holds test object = clause.holds test object
  | .matchAll, _ => by
      rw [ofClause, holds, Clause.holds]
  | .and clauses, object => by
      rw [ofClause, holds_every, all_holds_ofClauses, Clause.holds, Clause.allHold_eq_all]
  | .or clauses, object => by
      rw [ofClause, holds_atLeastOne, any_holds_ofClauses, Clause.holds, Clause.someHold_eq_any]
  | .not clause, object => by
      rw [ofClause, holds_negate, holds_ofClause, Clause.holds]
  | .nested path clause, object => by
      rw [ofClause, holds, Clause.holds]
      simp only [holds_ofClause]
  | .term field values, object => by
      rw [ofClause, holds, Clause.holds]
      rfl
  | .range field lower upper, object => by
      rw [ofClause, holds, Clause.holds, toClause?_range, Option.any_some]
  | .present field, object => by
      rw [ofClause, holds, Clause.holds]
      rfl
  | .wildcard field pattern caseInsensitive, object => by
      rw [ofClause, holds, Clause.holds]
      cases caseInsensitive <;> rfl

theorem all_holds_ofClauses :
    ∀ (clauses : List Clause) (object : DocumentTree α),
      ((ofClauses clauses).all fun query => query.holds test object) =
        clauses.all fun clause => clause.holds test object
  | [], _ => rfl
  | clause :: rest, object => by
      rw [ofClauses, List.all_cons, List.all_cons, holds_ofClause, all_holds_ofClauses]

theorem any_holds_ofClauses :
    ∀ (clauses : List Clause) (object : DocumentTree α),
      ((ofClauses clauses).any fun query => query.holds test object) =
        clauses.any fun clause => clause.holds test object
  | [], _ => rfl
  | clause :: rest, object => by
      rw [ofClauses, List.any_cons, List.any_cons, holds_ofClause, any_holds_ofClauses]
end

end Query

namespace Body

variable {α : Type} {test : ObjectTest α} {plan : Plan} {document : DocumentTree α}

/-- A post filter that is left out lets every document pass. -/
theorem all_holds_postFilterOf
    (filter : Query) :
    ((postFilterOf filter).all fun query => query.holds test document) =
      filter.holds test document := by
  cases filter with
  | matchAll =>
      rw [Query.holds]
      rfl
  | terms | range | bool | present | wildcard | nested =>
      rfl

theorem isHit_ofPlan :
    (ofPlan plan).isHit test document = plan.filter.holds test document := by
  rw [← Query.holds_ofClause, isHit, ofPlan]
  by_cases noFacets : plan.facets.isEmpty
  · simp [noFacets]
  · simp [noFacets, all_holds_postFilterOf, Query.holds]

/-- With facets the query lets every document pass. -/
theorem holds_query_ofPlan
    (withFacets : plan.facets ≠ []) :
    (ofPlan plan).query.holds test document = true := by
  rw [ofPlan, if_neg (by simpa using withFacets), Query.holds]

/-- With distinct facets every one is found under its name. -/
theorem lookup?_aggregations_ofPlan
    (distinct : (plan.facets.map PlannedFacet.facet).Nodup)
    {facet : PlannedFacet}
    (planned : facet ∈ plan.facets) :
    Entries.lookup? facet.facet (ofPlan plan).aggregations =
      some (Aggregation.ofFacet facet) :=
  Entries.lookup?_ofList_map distinct Aggregation.ofFacet planned

theorem isSeenBy_ofPlan
    (distinct : (plan.facets.map PlannedFacet.facet).Nodup)
    {facet : PlannedFacet}
    (planned : facet ∈ plan.facets) :
    (ofPlan plan).isSeenBy test facet.facet document = facet.filter.holds test document := by
  rw [isSeenBy, holds_query_ofPlan (List.ne_nil_of_mem planned),
    lookup?_aggregations_ofPlan distinct planned, ← Query.holds_ofClause]
  rfl

end Body

/--
The hits of a plan's body are the documents that satisfy the filter of the
plan, and every facet sees the documents that satisfy its own filter, with
whatever other facets it was planned.
-/
theorem body_matches_as_planned
    {α : Type}
    {test : ObjectTest α}
    {plan : Plan}
    (distinct : (plan.facets.map PlannedFacet.facet).Nodup)
    (document : DocumentTree α) :
    (Body.ofPlan plan).isHit test document = plan.filter.holds test document ∧
      ∀ facet ∈ plan.facets,
        (Body.ofPlan plan).isSeenBy test facet.facet document =
          facet.filter.holds test document :=
  ⟨Body.isHit_ofPlan, fun _ planned => Body.isSeenBy_ofPlan distinct planned⟩

/-- An object meets the conditions on the fields that it lists. -/
def meetsListed : ObjectTest (List String)
  | .term field _, .object met _ => met.contains field
  | .range field _ _, .object met _ => met.contains field
  | _, _ => false

/-- A case that is not open, with a woman among its donors. -/
def closedCaseOfWoman : DocumentTree (List String) :=
  .object [] [("donors", .object [] []), ("donors", .object ["donors.gender"] [])]

/-- A closed case of a woman is no hit, but its status is counted. -/
theorem body_matches_as_planned_on_closedCaseOfWoman :
    (womenPlan.facets.map PlannedFacet.facet).Nodup ∧
      (Body.ofPlan womenPlan).isHit meetsListed closedCaseOfWoman = false ∧
      (Body.ofPlan womenPlan).isSeenBy meetsListed "status" closedCaseOfWoman = true ∧
      (Body.ofPlan womenPlan).isSeenBy meetsListed "donors__age" closedCaseOfWoman = false := by
  have distinct : (womenPlan.facets.map PlannedFacet.facet).Nodup := by
    decide
  have isWomens : casesOfWomen.holds meetsListed closedCaseOfWoman = true := by
    decide
  have isClosed : openCasesOfWomen.holds meetsListed closedCaseOfWoman = false := by
    decide
  obtain ⟨hit, seen⟩ := body_matches_as_planned distinct closedCaseOfWoman
  refine ⟨distinct, hit.trans isClosed, ?_, ?_⟩
  · exact (seen statusesOfWomen (by simp [womenPlan])).trans isWomens
  · exact (seen agesOfDonors (by simp [womenPlan])).trans isClosed

end FacetSearch.Elastic
