import FacetSearch.Clause.Shape
import FacetSearch.Elastic.Query
import FacetSearch.Proofs.Json.Written

namespace FacetSearch

/-!
# Queries on the wire

The query of a clause is read back from what is written for it, at every depth.
Parts that say nothing are left out and read as missing, so this rests on what
the conditions in the clause compare with: no bound may be `null`, which would
read as no bound, and values have to be written as they are.
-/

open Encoding

/-- What a condition compares with is written as it is, and is not read as missing. -/
def Clause.IsLegible : Clause → Prop
  | .term _ values => ∀ value ∈ values, value.IsNormal
  | .range _ lower upper =>
      (∀ bound ∈ lower, bound.value.IsGiven) ∧ ∀ bound ∈ upper, bound.value.IsGiven
  | _ => True

namespace Elastic

/-- A value is read back from its written form, within any height that the written form keeps. -/
def ReadsBack
    {α : Type}
    (readWithin? : Nat → Json → Option α)
    (write : α → Json)
    (value : α) :
    Prop :=
  ∀ height, (write value).normalize.height ≤ height →
    readWithin? height (write value).normalize = some value

/-- No value has no height, so it is enough to look at heights with a level to spare. -/
theorem readsBack_of_succ
    {α : Type}
    {readWithin? : Nat → Json → Option α}
    {write : α → Json}
    {value : α}
    (reads :
      ∀ height, (write value).normalize.height ≤ height + 1 →
        readWithin? (height + 1) (write value).normalize = some value) :
    ReadsBack readWithin? write value := by
  intro height fits
  cases height with
  | zero =>
      exact absurd fits (Nat.not_le_of_lt (Json.height_pos _))
  | succ height =>
      exact reads height fits

section Slots

variable
  {α : Type}
  {name : String}
  {slots : List (String × Option Json)}

/-- A list as a slot that is left out when the list is empty. -/
def listSlot (items : List Json) : Option Json :=
  if items.isEmpty then none else some (.array items)

theorem listMember_eq_given
    (name : String)
    (items : List Json) :
    listMember name items = Json.given [(name, listSlot items)] := by
  unfold listMember listSlot
  split <;> rfl

theorem defaulted_listSlot
    {read : Json → Option α}
    {write : α → Json}
    {items : List α}
    (reads : ∀ item ∈ items, read (write item).normalize = some item) :
    defaulted [] (listOf read) ((listSlot (items.map write)).map Json.normalize) = some items := by
  cases items with
  | nil =>
      rfl
  | cons item rest =>
      exact listOf_map_normalize reads

/-- An item of a list that is written for a slot is lower than the record. -/
theorem height_lt_of_listSlot
    {write : α → Json}
    {items : List α}
    {item : α}
    (picked :
      slots.filter (fun slot => [name].contains slot.1) = [(name, listSlot (items.map write))])
    (member : item ∈ items) :
    (write item).normalize.height < (Json.object (Json.given slots)).normalize.height := by
  have isArray : listSlot (items.map write) = some (.array (items.map write)) := by
    rw [listSlot, if_neg (by simpa using List.ne_nil_of_mem member)]
  have inArray :
      (write item).normalize.height < (Json.array (items.map write)).normalize.height := by
    rw [Json.normalize, Json.normalizeItems_eq_map]
    exact Json.height_lt_of_mem_items (List.mem_map_of_mem (List.mem_map_of_mem member))
  exact Nat.lt_trans inArray (height_lt_of_given (picked.trans (by rw [isArray])))

theorem mapOf_objectOf_singleton
    {read : Json → Option α}
    {write : α → Json}
    {value : α}
    (reads : read (write value).normalize = some value) :
    mapOf read (objectOf write [(name, value)]).normalize = some [(name, value)] :=
  mapOf_map_normalize (List.pairwise_singleton _ _) (List.forall_mem_singleton.mpr reads)

theorem unsigned32?_nat
    (value : UInt32) :
    unsigned32? (Json.nat value.toNat) = some value := by
  have inRange : value.toNat < UInt32.size := value.toNat_lt
  have read : natBelow UInt32.size (Json.nat value.toNat) = some value.toNat := by
    rw [natBelow]
    simp [Encoding.integer?, Json.nat, Json.integer?, inRange]
  rw [unsigned32?, read, Option.map_some, UInt32.ofNat_toNat]

end Slots

namespace Query

theorem toJsons_eq_map
    (queries : List Query) :
    toJsons queries = queries.map toJson := by
  induction queries with
  | nil =>
      rfl
  | cons query rest inductionHypothesis =>
      rw [toJsons, inductionHypothesis, List.map_cons]

/-- A query of one kind is read back when its body is, within the height that is left. -/
theorem readsBack_of_body
    {query : Query}
    {kind : String}
    {body : Json}
    (written : query.toJson = .object [(kind, body)])
    (reads :
      ∀ height, body.normalize.height ≤ height →
        readWithin? (height + 1) (.object [(kind, body.normalize)]) = some query) :
    ReadsBack readWithin? toJson query := by
  have normal : query.toJson.normalize = .object [(kind, body.normalize)] := by
    rw [written]
    rfl
  apply readsBack_of_succ
  intro height fits
  rw [normal, Json.height_singleton] at fits
  rw [normal]
  exact reads height (Nat.le_of_succ_le_succ fits)

theorem readsBack_matchAll : ReadsBack readWithin? toJson .matchAll :=
  readsBack_of_body rfl fun _ _ => rfl

theorem readsBack_terms
    {field : String}
    {values : List Json}
    (normal : ∀ value ∈ values, value.IsNormal) :
    ReadsBack readWithin? toJson (.terms [(field, values)]) := by
  have reads : listOf raw? (Json.array values).normalize = some values := by
    have listed := @listOf_map_normalize _ raw? id values fun value member => by
      rw [id, raw?, normal value member, normal value member]
    rwa [List.map_id] at listed
  refine readsBack_of_body rfl ?_
  intro height _
  rw [readWithin?, mapOf_objectOf_singleton reads]
  rfl

/-- The bounds of a range query are given. -/
structure AreGiven (bounds : RangeBounds) : Prop where
  gte : ∀ bound ∈ bounds.gte, bound.IsGiven
  gt : ∀ bound ∈ bounds.gt, bound.IsGiven
  lte : ∀ bound ∈ bounds.lte, bound.IsGiven
  lt : ∀ bound ∈ bounds.lt, bound.IsGiven

theorem read?_bounds
    {bounds : RangeBounds}
    (given : AreGiven bounds) :
    RangeBounds.read? bounds.toJson.normalize = some bounds := by
  have written :
      bounds.toJson =
        .object (Json.given [
          ("gte", bounds.gte), ("gt", bounds.gt), ("lte", bounds.lte), ("lt", bounds.lt)]) := by
    simp only [RangeBounds.toJson, Json.optionalMember_eq_given, ← Json.given_append,
      Option.map_id_fun, id, List.cons_append, List.nil_append]
  have raw : raw? = fun value => some value.normalize := rfl
  rw [written, RangeBounds.read?, record?_given rfl, raw]
  simp only [List.map_cons, List.map_nil, Option.bind_eq_bind, Option.bind_some,
    optional_raw_of_isGiven given.gte, optional_raw_of_isGiven given.gt,
    optional_raw_of_isGiven given.lte, optional_raw_of_isGiven given.lt]

theorem readsBack_range
    {field : String}
    {bounds : RangeBounds}
    (given : AreGiven bounds) :
    ReadsBack readWithin? toJson (.range [(field, bounds)]) := by
  refine readsBack_of_body rfl ?_
  intro height _
  rw [readWithin?, mapOf_objectOf_singleton (read?_bounds given)]
  rfl

theorem readsBack_present
    {field : String} :
    ReadsBack readWithin? toJson (.present field) :=
  readsBack_of_body rfl fun _ _ => rfl

theorem read?_pattern
    (pattern : WildcardPattern) :
    WildcardPattern.read? pattern.toJson.normalize = some pattern := by
  have written :
      pattern.toJson =
        .object (Json.given [
          ("value", some (.string pattern.value)),
          ("case_insensitive", pattern.caseInsensitive.map .bool)]) := by
    obtain ⟨_, caseInsensitive⟩ := pattern
    cases caseInsensitive <;> rfl
  have caseInsensitive :
      optional Json.bool? ((pattern.caseInsensitive.map .bool).map Json.normalize) =
        some pattern.caseInsensitive :=
    optional_map_normalize (fun _ _ => rfl) fun _ _ => rfl
  rw [written, WildcardPattern.read?, record?_given rfl]
  simp only [List.map_cons, List.map_nil, Option.map_some, Json.normalize_string,
    Option.bind_eq_bind, Option.bind_some, required, Encoding.text?, Json.text?, caseInsensitive]

theorem readsBack_wildcard
    {field : String}
    {pattern : WildcardPattern} :
    ReadsBack readWithin? toJson (.wildcard [(field, pattern)]) := by
  refine readsBack_of_body rfl ?_
  intro height _
  rw [readWithin?, mapOf_objectOf_singleton (read?_pattern pattern)]
  rfl

theorem readsBack_nested
    {path : String}
    {query : Query}
    (reads : ReadsBack readWithin? toJson query) :
    ReadsBack readWithin? toJson (.nested path query) := by
  have written :
      (Query.nested path query).toJson =
        .object [("nested",
          .object (Json.given [("path", some (.string path)), ("query", some query.toJson)]))] :=
    rfl
  refine readsBack_of_body written ?_
  intro height fits
  have lower : query.toJson.normalize.height ≤ height :=
    Nat.le_trans (Nat.le_of_lt (@height_lt_of_given "query" _ _ rfl)) fits
  rw [readWithin?, record?_given rfl]
  simp only [List.map_cons, List.map_nil, Option.map_some, Json.normalize_string,
    Option.bind_eq_bind, Option.bind_some, required, Encoding.text?, Json.text?,
    reads height lower]

theorem readsBack_bool
    {filter should mustNot : List Query}
    {minimum : Option UInt32}
    (readFilter : ∀ query ∈ filter, ReadsBack readWithin? toJson query)
    (readShould : ∀ query ∈ should, ReadsBack readWithin? toJson query)
    (readMustNot : ∀ query ∈ mustNot, ReadsBack readWithin? toJson query) :
    ReadsBack readWithin? toJson (.bool filter should mustNot minimum) := by
  have written :
      (Query.bool filter should mustNot minimum).toJson =
        .object [("bool",
          .object (Json.given [
            ("filter", listSlot (filter.map toJson)),
            ("should", listSlot (should.map toJson)),
            ("must_not", listSlot (mustNot.map toJson)),
            ("minimum_should_match", minimum.map fun least => .nat least.toNat)]))] := by
    simp only [toJson, toJsons_eq_map, listMember_eq_given, Json.optionalMember_eq_given,
      ← Json.given_append, List.cons_append, List.nil_append]
  refine readsBack_of_body written ?_
  intro height fits
  have filterReads :=
    defaulted_listSlot fun query member =>
      readFilter query member height
        (Nat.le_trans (Nat.le_of_lt (@height_lt_of_listSlot _ "filter" _ _ _ _ rfl member)) fits)
  have shouldReads :=
    defaulted_listSlot fun query member =>
      readShould query member height
        (Nat.le_trans (Nat.le_of_lt (@height_lt_of_listSlot _ "should" _ _ _ _ rfl member)) fits)
  have mustNotReads :=
    defaulted_listSlot fun query member =>
      readMustNot query member height
        (Nat.le_trans (Nat.le_of_lt (@height_lt_of_listSlot _ "must_not" _ _ _ _ rfl member)) fits)
  have minimumReads :
      optional unsigned32?
          ((minimum.map fun least => Json.nat least.toNat).map Json.normalize) =
        some minimum :=
    optional_map_normalize (fun least _ => unsigned32?_nat least) fun _ _ => rfl
  rw [readWithin?, record?_given rfl]
  simp only [List.map_cons, List.map_nil, Option.bind_eq_bind, Option.bind_some, filterReads,
    shouldReads, mustNotReads, minimumReads]

/-- What is picked from an end that is given is given. -/
theorem isGiven_of_end
    {bound : Option Bound}
    {pick : Bound → Option Json}
    (picks : ∀ bound value, pick bound = some value → bound.value = value)
    (given : ∀ bound' ∈ bound, bound'.value.IsGiven) :
    ∀ value ∈ bound.bind pick, value.IsGiven := by
  intro value isPicked
  obtain ⟨bound, isBound, picked⟩ := Option.bind_eq_some_iff.mp isPicked
  rw [← picks bound value picked]
  exact given bound isBound

theorem areGiven_ofEnds
    {lower upper : Option Bound}
    (lowerGiven : ∀ bound ∈ lower, bound.value.IsGiven)
    (upperGiven : ∀ bound ∈ upper, bound.value.IsGiven) :
    AreGiven (.ofEnds lower upper) where
  gte := isGiven_of_end (by grind) lowerGiven
  gt := isGiven_of_end (by grind) lowerGiven
  lte := isGiven_of_end (by grind) upperGiven
  lt := isGiven_of_end (by grind) upperGiven

mutual
/-- The query of a clause is read back when the conditions in the clause are legible. -/
theorem readsBack_ofClause :
    ∀ clause : Clause,
      (∀ condition ∈ clause.conditions, condition.IsLegible) →
        ReadsBack readWithin? toJson (ofClause clause)
  | .matchAll, _ => readsBack_matchAll
  | .and clauses, legible =>
      readsBack_bool (readsBack_ofClauses clauses legible) (by simp) (by simp)
  | .or clauses, legible =>
      readsBack_bool (by simp) (readsBack_ofClauses clauses legible) (by simp)
  | .not clause, legible =>
      readsBack_bool (by simp) (by simp)
        (List.forall_mem_singleton.mpr (readsBack_ofClause clause legible))
  | .term _ _, legible => readsBack_terms (legible _ (List.mem_singleton_self _))
  | .range _ _ _, legible =>
      have given := legible _ (List.mem_singleton_self _)
      readsBack_range (areGiven_ofEnds given.1 given.2)
  | .present _, _ => readsBack_present
  | .wildcard _ _ _, _ => readsBack_wildcard
  | .nested _ clause, legible => readsBack_nested (readsBack_ofClause clause legible)

theorem readsBack_ofClauses :
    ∀ clauses : List Clause,
      (∀ condition ∈ Clause.conditionsOf clauses, condition.IsLegible) →
        ∀ query ∈ ofClauses clauses, ReadsBack readWithin? toJson query
  | [], _ => by
      simp [ofClauses]
  | clause :: rest, legible => by
      rw [Clause.conditionsOf, List.forall_mem_append] at legible
      rw [ofClauses, List.forall_mem_cons]
      exact ⟨readsBack_ofClause clause legible.1, readsBack_ofClauses rest legible.2⟩
end

theorem read?_of_readsBack
    {query : Query}
    (reads : ReadsBack readWithin? toJson query) :
    read? query.toJson.normalize = some query :=
  reads _ (Nat.le_refl _)

theorem toJson_ne_null
    (query : Query) :
    query.toJson.isNull = false := by
  cases query <;> rfl

end Query

end Elastic

end FacetSearch
