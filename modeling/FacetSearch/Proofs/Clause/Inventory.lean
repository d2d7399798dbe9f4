import FacetSearch.Clause.Shape
import FacetSearch.Proofs.Clause.Alternatives
import Mathlib.Algebra.BigOperators.Group.Multiset.Basic
import Mathlib.Algebra.GroupWithZero.Nat
import Mathlib.Data.List.Nodup
import Mathlib.Data.Prod.Basic

namespace FacetSearch

/-!
# Taking stock of a scope forest

Gathering clauses into shared scopes neither loses a clause nor doubles one,
however they are spread over the groups: the clauses of a forest are those that
were entered, in another order.  Its groups are the steps of the chains, each of
them once.  So what a joined clause has of anything that joins add up is the
sum over the entered clauses, and the price of a scope for every step.
-/

namespace Scope

section Clauses

mutual
/-- The clauses that stand in a scope, from left to right. -/
def entered : Scope → List Clause
  | .bare clause => [clause]
  | .group _ members => enteredIn members

/-- The clauses that stand in the scopes of a level. -/
def enteredIn : List Scope → List Clause
  | [] => []
  | scope :: rest => scope.entered ++ enteredIn rest
end

theorem enteredIn_append
    (first second : List Scope) :
    enteredIn (first ++ second) = enteredIn first ++ enteredIn second := by
  induction first with
  | nil =>
      rfl
  | cons scope rest inductionHypothesis =>
      rw [List.cons_append, enteredIn, enteredIn, inductionHypothesis, List.append_assoc]

/-- A change of one group adds to a level what it adds to the group. -/
theorem perm_enteredIn_updateGroup
    {path : String}
    {change : List Scope → List Scope}
    {clause : Clause}
    {level : List Scope}
    (changed : ∀ members, (enteredIn (change members)).Perm (clause :: enteredIn members)) :
    (enteredIn (updateGroup path change level)).Perm (clause :: enteredIn level) := by
  induction level with
  | nil =>
      simpa [updateGroup, enteredIn, entered] using changed []
  | cons scope rest inductionHypothesis =>
      have behind :
          (scope.entered ++ enteredIn (updateGroup path change rest)).Perm
            (clause :: (scope.entered ++ enteredIn rest)) :=
        (inductionHypothesis.append_left _).trans List.perm_middle
      cases scope with
      | bare other =>
          exact behind
      | group other members =>
          by_cases same : other = path
          · simp only [updateGroup, same, ↓reduceIte, enteredIn, entered]
            exact (changed members).append_right _
          · simp only [updateGroup, same, ↓reduceIte]
            exact behind

/-- Entering a clause adds it once. -/
theorem perm_enteredIn_insert
    {clause : Clause}
    {chain : List String}
    {level : List Scope} :
    (enteredIn (insert clause chain level)).Perm (clause :: enteredIn level) := by
  induction chain generalizing level with
  | nil =>
      rw [insert, enteredIn_append]
      exact List.perm_append_comm
  | cons path rest inductionHypothesis =>
      exact perm_enteredIn_updateGroup fun _ => inductionHypothesis

/-- The clauses of a forest are those of the items, each as often as it was entered. -/
theorem perm_enteredIn_forest
    (items : List Pending) :
    (enteredIn (forest items)).Perm (items.map Pending.clause) := by
  suffices behind :
      ∀ start,
        (enteredIn
            (items.foldl (fun forest item => insert item.clause item.chain forest) start)).Perm
          (items.map Pending.clause ++ enteredIn start) by
    simpa [forest, enteredIn] using behind []
  induction items with
  | nil =>
      exact fun _ => .refl _
  | cons item rest inductionHypothesis =>
      intro start
      rw [List.foldl_cons, List.map_cons, List.cons_append]
      exact (inductionHypothesis _).trans
        ((perm_enteredIn_insert.append_left _).trans List.perm_middle)

end Clauses

section Steps

mutual
/-- The groups of a scope: the path of each, behind the paths of the groups around it. -/
def steps : Scope → List (List String × String)
  | .bare _ => []
  | .group path members => ([], path) :: (stepsIn members).map (Prod.map (path :: ·) id)

/-- The groups of the scopes of a level. -/
def stepsIn : List Scope → List (List String × String)
  | [] => []
  | scope :: rest => scope.steps ++ stepsIn rest
end

mutual
theorem upholds_iff_forall_steps :
    ∀ {onStep : List String → String → Prop} (scope : Scope),
      scope.Upholds (fun _ _ => True) onStep ↔ ∀ step ∈ scope.steps, onStep step.1 step.2
  | _, .bare _ => by
      simp [Upholds, steps]
  | onStep, .group path members => by
      rw [Upholds, steps, List.forall_mem_cons, List.forall_mem_map,
        allUphold_iff_forall_stepsIn members]
      rfl

/-- A condition on group paths holds throughout a level when it holds of its steps. -/
theorem allUphold_iff_forall_stepsIn :
    ∀ {onStep : List String → String → Prop} (level : List Scope),
      AllUphold (fun _ _ => True) onStep level ↔ ∀ step ∈ stepsIn level, onStep step.1 step.2
  | _, [] => by
      simp [AllUphold, stepsIn]
  | _, scope :: rest => by
      rw [AllUphold, stepsIn, List.forall_mem_append, upholds_iff_forall_steps,
        allUphold_iff_forall_stepsIn rest]
end

/-- The groups of a forest are the steps of the chains of its items. -/
theorem mem_stepsIn_forest_iff
    {parent : List String}
    {path : String}
    {items : List Pending} :
    (parent, path) ∈ stepsIn (forest items) ↔
      ∃ item ∈ items, parent ++ [path] <+: item.chain := by
  -- A step is missing exactly when every step differs from it.
  have missing :
      (∀ step ∈ stepsIn (forest items), (step.1, step.2) ≠ (parent, path)) ↔
        ∀ item ∈ items, EveryStep (fun before last => (before, last) ≠ (parent, path)) item.chain := by
    rw [← @allUphold_iff_forall_stepsIn fun before last => (before, last) ≠ (parent, path),
      allUphold_forest]
    simp
  rw [← not_iff_not]
  constructor
  · intro absent
    push Not
    intro item member begins
    have apart := missing.mp (fun step isStep same => absent (same ▸ isStep)) item member
    exact apart parent path begins rfl
  · intro none isStep
    refine missing.mpr ?_ _ isStep rfl
    rintro item member before last begins same
    obtain ⟨rfl, rfl⟩ := Prod.mk.inj same
    exact none ⟨item, member, begins⟩

/-- Every step to a group of a scope starts with the path of the scope. -/
theorem exists_path?_of_mem_steps
    {scope : Scope}
    {step : List String × String}
    (isStep : step ∈ scope.steps) :
    ∃ path, scope.path? = some path ∧ (step.1 ++ [step.2]).head? = some path := by
  cases scope with
  | bare clause =>
      simp [steps] at isStep
  | group path members =>
      refine ⟨path, rfl, ?_⟩
      rw [steps, List.mem_cons, List.mem_map] at isStep
      obtain rfl | ⟨inner, -, rfl⟩ := isStep <;> rfl

theorem exists_mem_groupPaths_of_mem_stepsIn
    {level : List Scope}
    {step : List String × String}
    (isStep : step ∈ stepsIn level) :
    ∃ path ∈ groupPaths level, (step.1 ++ [step.2]).head? = some path := by
  induction level with
  | nil =>
      simp [stepsIn] at isStep
  | cons scope rest inductionHypothesis =>
      rw [stepsIn, List.mem_append] at isStep
      simp only [groupPaths, List.mem_filterMap, List.mem_cons] at inductionHypothesis ⊢
      cases isStep with
      | inl inScope =>
          obtain ⟨path, isPath, starts⟩ := exists_path?_of_mem_steps inScope
          exact ⟨path, ⟨scope, .inl rfl, isPath⟩, starts⟩
      | inr inRest =>
          obtain ⟨path, ⟨group, member, isPath⟩, starts⟩ := inductionHypothesis inRest
          exact ⟨path, ⟨group, .inr member, isPath⟩, starts⟩

mutual
theorem nodup_steps :
    ∀ scope : Scope, scope.IsTidy → scope.steps.Nodup
  | .bare _, _ => by
      simp [steps]
  | .group path members, ⟨_, tidy⟩ => by
      have injective : Function.Injective (Prod.map (path :: ·) id : List String × String → _) :=
        List.cons_injective.prodMap Function.injective_id
      rw [steps, List.nodup_cons]
      exact ⟨by simp, (nodup_stepsIn members tidy).map injective⟩

/-- A tidy level has every step once. -/
theorem nodup_stepsIn :
    ∀ level : List Scope, AreTidy level → (stepsIn level).Nodup
  | [], _ => by
      simp [stepsIn]
  | scope :: rest, ⟨scopeTidy, apart, restTidy⟩ => by
      rw [stepsIn, List.nodup_append]
      refine ⟨nodup_steps scope scopeTidy, nodup_stepsIn rest restTidy, ?_⟩
      rintro step inScope _ inRest rfl
      obtain ⟨path, isPath, starts⟩ := exists_path?_of_mem_steps inScope
      obtain ⟨path', isPath', starts'⟩ := exists_mem_groupPaths_of_mem_stepsIn inRest
      obtain rfl : path = path' := Option.some.inj (starts.symm.trans starts')
      exact apart path isPath isPath'
end

/-- A forest has one group for every step of the chains of its items. -/
theorem nodup_stepsIn_forest
    (items : List Pending) :
    (stepsIn (forest items)).Nodup :=
  nodup_stepsIn _ (areTidy_forest items)

end Steps

end Scope

namespace Clause

/--
An amount that connectives add up: what matches everything has nothing of it,
and every scope adds the same price to what stands in it.
-/
structure IsAdditive
    {M : Type}
    [AddCommMonoid M]
    (price : M)
    (amount : Clause → M) :
    Prop where
  matchAll : amount .matchAll = 0
  and : ∀ clauses, amount (.and clauses) = (clauses.map amount).sum
  or : ∀ clauses, amount (.or clauses) = (clauses.map amount).sum
  nested : ∀ path clause, amount (.nested path clause) = price + amount clause

namespace IsAdditive

variable {M : Type} [AddCommMonoid M] {price : M} {amount : Clause → M}

/-- A conjunction has what its members have, as those that it drops have nothing. -/
theorem amount_all
    (additive : IsAdditive price amount)
    (clauses : List Clause) :
    amount (all clauses) = (clauses.map amount).sum := by
  have sumKept :
      ((clauses.filter fun clause => !clause.isMatchAll).map amount).sum =
        (clauses.map amount).sum := by
    induction clauses with
    | nil =>
        rfl
    | cons clause rest inductionHypothesis =>
        by_cases matchesAll : clause.isMatchAll = true
        · obtain rfl := isMatchAll_iff.mp matchesAll
          simpa [matchesAll, additive.matchAll] using inductionHypothesis
        · simp [matchesAll, inductionHypothesis]
  rw [← sumKept]
  unfold all
  split
  case h_1 none =>
      simp [none, additive.matchAll]
  case h_2 clause kept =>
      simp [kept]
  case h_3 =>
      exact additive.and _

/-- A disjunction that not everything satisfies has what its members have. -/
theorem amount_any
    (additive : IsAdditive price amount)
    {clauses : List Clause}
    (restrict : ∀ clause ∈ clauses, clause.isMatchAll = false) :
    amount (any clauses) = (clauses.map amount).sum := by
  have noneMatchesAll : ¬ clauses.any isMatchAll = true := by
    simpa using restrict
  unfold any
  rw [if_neg noneMatchesAll]
  split
  case h_1 =>
      exact additive.matchAll
  case h_2 clause =>
      simp
  case h_3 =>
      exact additive.or _

theorem amount_within
    (additive : IsAdditive price amount)
    (chain : List String)
    (clause : Clause) :
    amount (clause.within chain) = chain.length • price + amount clause := by
  induction chain with
  | nil =>
      simp [within]
  | cons path rest inductionHypothesis =>
      have unfolded : clause.within (path :: rest) = .nested path (clause.within rest) := rfl
      rw [unfolded, additive.nested, inductionHypothesis, List.length_cons, succ_nsmul', add_assoc]

end IsAdditive

theorem coe_conditionsOf
    (clauses : List Clause) :
    (conditionsOf clauses : Multiset Clause) =
      (clauses.map fun clause => (clause.conditions : Multiset Clause)).sum := by
  induction clauses with
  | nil =>
      rfl
  | cons clause rest inductionHypothesis =>
      rw [conditionsOf, ← Multiset.coe_add, inductionHypothesis, List.map_cons, List.sum_cons]

theorem negationCounts_eq_sum
    (clauses : List Clause) :
    negationCounts clauses = (clauses.map negationCount).sum := by
  induction clauses with
  | nil =>
      rfl
  | cons clause rest inductionHypothesis =>
      rw [negationCounts, inductionHypothesis, List.map_cons, List.sum_cons]

theorem scopeCounts_eq_sum
    (clauses : List Clause) :
    scopeCounts clauses = (clauses.map scopeCount).sum := by
  induction clauses with
  | nil =>
      rfl
  | cons clause rest inductionHypothesis =>
      rw [scopeCounts, inductionHypothesis, List.map_cons, List.sum_cons]

/-- Connectives gather the conditions of their members, and scopes leave them alone. -/
theorem isAdditive_conditions :
    IsAdditive 0 (fun clause => (clause.conditions : Multiset Clause)) where
  matchAll := rfl
  and := coe_conditionsOf
  or := coe_conditionsOf
  nested _ _ := (zero_add _).symm

theorem isAdditive_negationCount :
    IsAdditive 0 negationCount where
  matchAll := rfl
  and := negationCounts_eq_sum
  or := negationCounts_eq_sum
  nested _ _ := (Nat.zero_add _).symm

theorem isAdditive_scopeCount :
    IsAdditive 1 scopeCount where
  matchAll := rfl
  and := scopeCounts_eq_sum
  or := scopeCounts_eq_sum
  nested _ _ := Nat.add_comm _ _

end Clause

namespace Scope

section Amounts

variable
  {M : Type} [AddCommMonoid M]
  {price : M} {amount : Clause → M}
  {join : List Clause → Clause}
  {counted : Clause → Prop}

/-- What holds of the entered clauses and of every scope holds of the clauses of a level. -/
theorem counted_toClauses
    (counted : Clause → Prop)
    (nestedCounted : ∀ path clause, counted (.nested path clause))
    {level : List Scope}
    (enteredCounted : ∀ clause ∈ enteredIn level, counted clause) :
    ∀ clause ∈ toClauses join level, counted clause := by
  induction level with
  | nil =>
      simp [toClauses]
  | cons scope rest inductionHypothesis =>
      rw [enteredIn, List.forall_mem_append] at enteredCounted
      rw [toClauses, List.forall_mem_cons]
      refine ⟨?_, inductionHypothesis enteredCounted.2⟩
      cases scope with
      | bare clause =>
          exact enteredCounted.1 clause (List.mem_singleton_self clause)
      | group path members =>
          exact nestedCounted path _

theorem counted_enteredIn_forest
    (counted : Clause → Prop)
    {items : List Pending}
    (itemsCounted : ∀ item ∈ items, counted item.clause) :
    ∀ clause ∈ enteredIn (forest items), counted clause := by
  intro clause member
  obtain ⟨item, itemMember, rfl⟩ :=
    List.mem_map.mp ((perm_enteredIn_forest items).mem_iff.mp member)
  exact itemsCounted item itemMember

mutual
theorem amount_toClause
    (additive : Clause.IsAdditive price amount)
    (nestedCounted : ∀ path clause, counted (.nested path clause))
    (joined :
      ∀ {clauses}, (∀ clause ∈ clauses, counted clause) →
        amount (join clauses) = (clauses.map amount).sum) :
    ∀ scope : Scope,
      (∀ clause ∈ scope.entered, counted clause) →
        amount (scope.toClause join) =
          scope.steps.length • price + (scope.entered.map amount).sum
  | .bare clause, _ => by
      simp [toClause, steps, entered]
  | .group path members, enteredCounted => by
      rw [toClause, additive.nested, joined (counted_toClauses counted nestedCounted enteredCounted),
        amount_toClauses additive nestedCounted joined members enteredCounted, steps,
        List.length_cons, List.length_map, succ_nsmul', add_assoc]
      rfl

/-- The clauses of a level have what was entered has, and the price of every group. -/
theorem amount_toClauses
    (additive : Clause.IsAdditive price amount)
    (nestedCounted : ∀ path clause, counted (.nested path clause))
    (joined :
      ∀ {clauses}, (∀ clause ∈ clauses, counted clause) →
        amount (join clauses) = (clauses.map amount).sum) :
    ∀ level : List Scope,
      (∀ clause ∈ enteredIn level, counted clause) →
        ((toClauses join level).map amount).sum =
          (stepsIn level).length • price + ((enteredIn level).map amount).sum
  | [], _ => by
      simp [toClauses, stepsIn, enteredIn]
  | scope :: rest, enteredCounted => by
      rw [enteredIn, List.forall_mem_append] at enteredCounted
      rw [toClauses, List.map_cons, List.sum_cons,
        amount_toClause additive nestedCounted joined scope enteredCounted.1,
        amount_toClauses additive nestedCounted joined rest enteredCounted.2, stepsIn, enteredIn,
        List.length_append, List.map_append, List.sum_append, add_nsmul]
      exact add_add_add_comm _ _ _ _
end

/-- The join of a forest has what the items have, and the price of every step. -/
theorem amount_join_forest
    (additive : Clause.IsAdditive price amount)
    (nestedCounted : ∀ path clause, counted (.nested path clause))
    (joined :
      ∀ {clauses}, (∀ clause ∈ clauses, counted clause) →
        amount (join clauses) = (clauses.map amount).sum)
    {items : List Pending}
    (itemsCounted : ∀ item ∈ items, counted item.clause) :
    amount (join (toClauses join (forest items))) =
      (stepsIn (forest items)).length • price +
        (items.map fun item => amount item.clause).sum := by
  have reordered := perm_enteredIn_forest items
  have enteredCounted := counted_enteredIn_forest counted itemsCounted
  rw [joined (counted_toClauses counted nestedCounted enteredCounted),
    amount_toClauses additive nestedCounted joined _ enteredCounted,
    (reordered.map amount).sum_eq, List.map_map]
  rfl

end Amounts

end Scope

namespace Pending

variable
  {M : Type} [AddCommMonoid M]
  {amount : Clause → M}
  {common : List String}
  {items : List Pending}

/-- Joined siblings restrict something when each of them does. -/
theorem isMatchAll_joinBelow
    {join : List Clause → Clause}
    (nonempty : items ≠ [])
    (restricts :
      ∀ {clauses}, clauses ≠ [] → (∀ clause ∈ clauses, clause.isMatchAll = false) →
        (join clauses).isMatchAll = false)
    (each : ∀ item ∈ items, item.clause.isMatchAll = false) :
    (joinBelow join common items).clause.isMatchAll = false := by
  rw [clause_joinBelow]
  apply restricts
  · exact Scope.toClauses_ne_nil (Scope.forest_ne_nil (by simpa using nonempty))
  · apply Scope.counted_toClauses (fun clause => clause.isMatchAll = false) (fun _ _ => rfl)
    apply Scope.counted_enteredIn_forest (fun clause => clause.isMatchAll = false)
    rw [List.forall_mem_map]
    exact each

/-- What scopes cost nothing of, joined siblings have as much of as they have together. -/
theorem amount_joinBelow
    (additive : Clause.IsAdditive 0 amount)
    {join : List Clause → Clause}
    (joined :
      ∀ {clauses}, (∀ clause ∈ clauses, clause.isMatchAll = false) →
        amount (join clauses) = (clauses.map amount).sum)
    (each : ∀ item ∈ items, item.clause.isMatchAll = false) :
    amount (joinBelow join common items).clause =
      (items.map fun item => amount item.clause).sum := by
  have eachBelow :
      ∀ item ∈ items.map (below common.length), item.clause.isMatchAll = false := by
    rw [List.forall_mem_map]
    exact each
  rw [clause_joinBelow, Scope.amount_join_forest additive (fun _ _ => rfl) joined eachBelow,
    nsmul_zero, zero_add, List.map_map]
  rfl

end Pending

end FacetSearch
