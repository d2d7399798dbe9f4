import FacetSearch.Proofs.Clause.Connectives
import FacetSearch.Proofs.Clause.Forest

namespace FacetSearch

/-!
# Shared objects

Conjuncts that lie under the same nested fields are about the same objects.
What that means is said without scopes: there is one choice of an object for
every beginning of the chains, each an object below the one chosen for the
beginning one shorter, and every conjunct holds of the object chosen for its
whole chain.  The join of a forest of scopes says exactly this.
-/

variable {α : Type}

/--
A choice of objects goes down a chain: the object chosen for every nonempty
beginning is a child, under the last path of the beginning, of the object
chosen for the beginning one shorter.
-/
def Follows
    (choice : List String → DocumentTree α)
    (chain : List String) :
    Prop :=
  EveryStep (fun parent path => choice (parent ++ [path]) ∈ (choice parent).children path) chain

/-- One choice of objects, starting at the given object, satisfies all items. -/
def HoldTogether
    (test : ObjectTest α)
    (items : List Pending)
    (object : DocumentTree α) :
    Prop :=
  ∃ choice : List String → DocumentTree α,
    choice [] = object ∧
      ∀ item ∈ items,
        Follows choice item.chain ∧ item.clause.holds test (choice item.chain) = true

namespace Scope

section Witness

variable {test : ObjectTest α}

/-- A choice of objects satisfies the clauses of a scope and goes down its groups. -/
def Witnessed
    (test : ObjectTest α)
    (choice : List String → DocumentTree α) :
    Scope → Prop :=
  Upholds
    (fun chain clause => clause.holds test (choice chain) = true)
    (fun parent path => choice (parent ++ [path]) ∈ (choice parent).children path)

/-- A choice of objects satisfies the clauses of a level and goes down its groups. -/
def AllWitnessed
    (test : ObjectTest α)
    (choice : List String → DocumentTree α) :
    List Scope → Prop :=
  AllUphold
    (fun chain clause => clause.holds test (choice chain) = true)
    (fun parent path => choice (parent ++ [path]) ∈ (choice parent).children path)

theorem allWitnessed_cons
    {choice : List String → DocumentTree α}
    {scope : Scope}
    {rest : List Scope} :
    AllWitnessed test choice (scope :: rest) ↔
      scope.Witnessed test choice ∧ AllWitnessed test choice rest :=
  Iff.rfl

/-- A group is witnessed by a child, and by the part of the choice that starts there. -/
theorem witnessed_group
    {choice : List String → DocumentTree α}
    {path : String}
    {members : List Scope} :
    (Scope.group path members).Witnessed test choice ↔
      choice [path] ∈ (choice []).children path ∧
        AllWitnessed test (fun chain => choice (path :: chain)) members :=
  Iff.rfl

/-- Only the object at hand and those below the path of a scope matter to the scope. -/
theorem witnessed_congr
    {choice other : List String → DocumentTree α}
    {scope : Scope}
    (sameObject : choice [] = other [])
    (sameBelow :
      ∀ path chain, scope.path? = some path → choice (path :: chain) = other (path :: chain)) :
    scope.Witnessed test choice ↔ scope.Witnessed test other := by
  cases scope with
  | bare clause =>
      simp only [Witnessed, Upholds, sameObject]
  | group path members =>
      have sameInside :
          (fun chain => choice (path :: chain)) = fun chain => other (path :: chain) :=
        funext fun chain => sameBelow path chain rfl
      rw [witnessed_group, witnessed_group, sameObject, sameBelow path [] rfl, sameInside]

/-- Only the object at hand and those below the group paths of a level matter to the level. -/
theorem allWitnessed_congr
    {choice other : List String → DocumentTree α}
    {forest : List Scope}
    (sameObject : choice [] = other [])
    (sameBelow :
      ∀ path ∈ groupPaths forest, ∀ chain, choice (path :: chain) = other (path :: chain)) :
    AllWitnessed test choice forest ↔ AllWitnessed test other forest := by
  induction forest with
  | nil =>
      exact Iff.rfl
  | cons scope rest inductionHypothesis =>
      rw [allWitnessed_cons, allWitnessed_cons]
      apply and_congr
      · apply witnessed_congr sameObject
        intro path chain isPath
        exact sameBelow path (List.mem_filterMap.mpr ⟨scope, by simp, isPath⟩) chain
      · apply inductionHypothesis
        intro path member
        obtain ⟨group, inRest, isPath⟩ := List.mem_filterMap.mp member
        exact sameBelow path (List.mem_filterMap.mpr ⟨group, by simp [inRest], isPath⟩)

mutual
/-- A witnessed scope holds of the object that the choice starts at. -/
theorem holds_of_witnessed :
    ∀ {choice : List String → DocumentTree α} (scope : Scope),
      scope.Witnessed test choice →
      (scope.toClause .all).holds test (choice []) = true
  | choice, .bare clause, witnessed => by
      simpa only [toClause, Witnessed, Upholds] using witnessed
  | choice, .group path members, witnessed => by
      obtain ⟨isChild, inside⟩ := witnessed_group.mp witnessed
      rw [toClause, Clause.holds, List.any_eq_true]
      exact ⟨choice [path], isChild, Clause.holds_all.mpr (all_hold_of_witnessed members inside)⟩

theorem all_hold_of_witnessed :
    ∀ {choice : List String → DocumentTree α} (forest : List Scope),
      AllWitnessed test choice forest →
      ∀ clause ∈ toClauses .all forest, clause.holds test (choice []) = true
  | _, [], _ => by
      simp [toClauses]
  | choice, scope :: rest, witnessed => by
      obtain ⟨scopeWitnessed, restWitnessed⟩ := allWitnessed_cons.mp witnessed
      rw [toClauses, List.forall_mem_cons]
      exact ⟨holds_of_witnessed scope scopeWitnessed, all_hold_of_witnessed rest restWitnessed⟩
end

mutual
/-- A tidy scope that holds of an object is witnessed by a choice from there. -/
theorem exists_witness_of_holds :
    ∀ (scope : Scope) (object : DocumentTree α),
      scope.IsTidy →
      (scope.toClause .all).holds test object = true →
      ∃ choice, choice [] = object ∧ scope.Witnessed test choice
  | .bare clause, object, _, holdsHere => by
      exact ⟨fun _ => object, rfl, holdsHere⟩
  | .group path members, object, tidy, holdsHere => by
      rw [toClause, Clause.holds, List.any_eq_true] at holdsHere
      obtain ⟨child, isChild, holdsThere⟩ := holdsHere
      obtain ⟨inside, startsThere, witnessed⟩ :=
        exists_witness_of_all_hold members child tidy.2 (Clause.holds_all.mp holdsThere)
      refine ⟨fun chain => if chain = [] then object else inside chain.tail, by simp, ?_⟩
      rw [witnessed_group]
      exact ⟨by simpa [startsThere] using isChild, by simpa using witnessed⟩

theorem exists_witness_of_all_hold :
    ∀ (forest : List Scope) (object : DocumentTree α),
      AreTidy forest →
      (∀ clause ∈ toClauses .all forest, clause.holds test object = true) →
      ∃ choice, choice [] = object ∧ AllWitnessed test choice forest
  | [], object, _, _ => by
      exact ⟨fun _ => object, rfl, trivial⟩
  | scope :: rest, object, tidy, holdHere => by
      obtain ⟨scopeTidy, apart, restTidy⟩ := tidy
      rw [toClauses, List.forall_mem_cons] at holdHere
      obtain ⟨first, firstStart, firstWitnessed⟩ :=
        exists_witness_of_holds scope object scopeTidy holdHere.1
      obtain ⟨later, laterStart, laterWitnessed⟩ :=
        exists_witness_of_all_hold rest object restTidy holdHere.2
      -- Siblings have different paths, so the first path of a chain tells whose choice counts.
      let choice : List String → DocumentTree α :=
        fun chain => if chain.head? = scope.path? then first chain else later chain
      have start : choice [] = object := by
        simp only [choice, firstStart, laterStart, ite_self]
      refine ⟨choice, start, allWitnessed_cons.mpr ⟨?_, ?_⟩⟩
      · refine (witnessed_congr (start.trans firstStart.symm) ?_).mpr firstWitnessed
        intro path chain isPath
        simp [choice, isPath]
      · refine (allWitnessed_congr (start.trans laterStart.symm) ?_).mpr laterWitnessed
        intro path inRest chain
        have notHere : some path ≠ scope.path? := by
          intro isPath
          exact apart path isPath.symm inRest
        simp [choice, notHere]
end

end Witness

end Scope

/-- The clauses of a forest hold of an object exactly when its items hold together there. -/
theorem Scope.all_hold_forest_iff
    {test : ObjectTest α}
    {items : List Pending}
    {object : DocumentTree α} :
    (∀ clause ∈ toClauses .all (forest items), clause.holds test object = true) ↔
      HoldTogether test items object := by
  constructor
  · intro holdHere
    obtain ⟨choice, start, witnessed⟩ :=
      exists_witness_of_all_hold _ object (areTidy_forest items) holdHere
    exact ⟨choice, start, allUphold_forest.mp witnessed⟩
  · rintro ⟨choice, rfl, satisfied⟩
    exact all_hold_of_witnessed _ (allUphold_forest.mpr satisfied)

section Joining

variable {test : ObjectTest α} {items : List Pending} {object : DocumentTree α}

/-- Items under one nested field hold together when they do below one of its objects. -/
theorem holdTogether_iff_child
    {path : String}
    (nonempty : items ≠ [])
    (shared : ∀ item ∈ items, [path] <+: item.chain) :
    HoldTogether test items object ↔
      ∃ child ∈ object.children path, HoldTogether test (items.map (Pending.below 1)) child := by
  have headed : ∀ item ∈ items, item.chain = path :: (item.below 1).chain := by
    intro item member
    obtain ⟨rest, split⟩ := shared item member
    simp [Pending.below, ← split]
  constructor
  · rintro ⟨choice, rfl, satisfied⟩
    have stepsBelow :
        ∀ item ∈ items,
          choice [path] ∈ (choice []).children path ∧
            Follows (fun chain => choice (path :: chain)) (item.below 1).chain := by
      intro item member
      have follows := (satisfied item member).1
      rw [headed item member] at follows
      exact everyStep_cons.mp follows
    obtain ⟨witness, witnessMember⟩ := List.exists_mem_of_ne_nil items nonempty
    refine ⟨choice [path], (stepsBelow witness witnessMember).1,
      fun chain => choice (path :: chain), rfl, ?_⟩
    rw [List.forall_mem_map]
    intro item member
    have holdsThere := (satisfied item member).2
    rw [headed item member] at holdsThere
    exact ⟨(stepsBelow item member).2, holdsThere⟩
  · rintro ⟨child, isChild, inside, start, satisfied⟩
    rw [List.forall_mem_map] at satisfied
    refine ⟨fun chain => if chain = [] then object else inside chain.tail, by simp, ?_⟩
    intro item member
    obtain ⟨follows, holdsThere⟩ := satisfied item member
    rw [headed item member]
    refine ⟨everyStep_cons.mpr ⟨by simpa [start] using isChild, ?_⟩, by simpa using holdsThere⟩
    simpa [Follows] using follows

/-- Items under a chain of nested fields hold together when they do at an object it leads to. -/
theorem holdTogether_iff_descendant
    {common : List String}
    (nonempty : items ≠ [])
    (shared : ∀ item ∈ items, common <+: item.chain) :
    HoldTogether test items object ↔
      ∃ descendant ∈ object.descendants common,
        HoldTogether test (items.map (Pending.below common.length)) descendant := by
  induction common generalizing items object with
  | nil =>
      simp [DocumentTree.descendants]
  | cons path rest inductionHypothesis =>
      have underPath : ∀ item ∈ items, [path] <+: item.chain := by
        intro item member
        exact List.IsPrefix.trans (by simp) (shared item member)
      have underRest : ∀ item ∈ items.map (Pending.below 1), rest <+: item.chain := by
        rw [List.forall_mem_map]
        intro item member
        exact (shared item member).drop 1
      have lengths :
          (items.map (Pending.below 1)).map (Pending.below rest.length) =
            items.map (Pending.below (path :: rest).length) := by
        simp [Pending.below_below, Nat.add_comm]
      rw [holdTogether_iff_child nonempty underPath]
      simp only [inductionHypothesis (by simpa using nonempty) underRest, lengths,
        DocumentTree.mem_descendants_cons]
      constructor
      · rintro ⟨child, isChild, descendant, reached, together⟩
        exact ⟨descendant, ⟨child, isChild, reached⟩, together⟩
      · rintro ⟨descendant, ⟨child, isChild, reached⟩, together⟩
        exact ⟨child, isChild, descendant, reached, together⟩

/-- The joined conjunction of items says that they hold together below the common chain. -/
theorem holds_joinBelow_all
    {common : List String} :
    (Pending.joinBelow .all common items).clause.holds test object = true ↔
      HoldTogether test (items.map (Pending.below common.length)) object := by
  rw [Pending.clause_joinBelow, Clause.holds_all]
  exact Scope.all_hold_forest_iff

/-- Inside what is left of the common chain, a joined conjunction holds its items together. -/
theorem holds_joinBelow_all_within
    {common : List String}
    (nonempty : items ≠ [])
    (shared : ∀ item ∈ items, common <+: item.chain)
    {opened : Nat}
    (opens : opened ≤ common.length) :
    ((Pending.joinBelow .all common items).clause.within (common.drop opened)).holds
        test object = true ↔
      HoldTogether test (items.map (Pending.below opened)) object := by
  have sharedBelow :
      ∀ item ∈ items.map (Pending.below opened), common.drop opened <+: item.chain := by
    rw [List.forall_mem_map]
    intro item member
    exact (shared item member).drop opened
  have lengths :
      (items.map (Pending.below opened)).map (Pending.below (common.drop opened).length) =
        items.map (Pending.below common.length) := by
    simp [Pending.below_below, Nat.add_sub_cancel' opens]
  rw [Clause.holds_within, holdTogether_iff_descendant (by simpa using nonempty) sharedBelow,
    lengths]
  simp only [holds_joinBelow_all]

/-- A joined and closed conjunction says that its items hold together. -/
theorem holds_close_joinBelow_all
    {common : List String}
    (nonempty : items ≠ [])
    (shared : ∀ item ∈ items, common <+: item.chain) :
    (Pending.joinBelow .all common items).close.holds test object = true ↔
      HoldTogether test items object := by
  refine (holds_joinBelow_all_within nonempty shared (Nat.zero_le _)).trans ?_
  simp

end Joining

end FacetSearch
