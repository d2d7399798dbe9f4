import FacetSearch.Clause.Shape
import FacetSearch.Proofs.Clause.Alternatives
import FacetSearch.Proofs.Schema.Ancestors
import FacetSearch.Proofs.Sqon.Outcome

namespace FacetSearch

/-!
# Compiled filters are in normal form

Joining drops the members that match everything and unwraps single ones, so
every conjunction and disjunction that is left has two members or more, and
each of them restricts something.  No restriction is lost on the way, inside
scopes that are still pending or outside: a filter matches everything only if
its tree is true by its shape alone.
-/

namespace Clause

theorem areNormalParts_iff
    {clauses : List Clause} :
    AreNormalParts clauses ↔
      ∀ clause ∈ clauses, clause.isMatchAll = false ∧ clause.IsNormal := by
  induction clauses with
  | nil =>
      simp [AreNormalParts]
  | cons clause rest inductionHypothesis =>
      rw [AreNormalParts, inductionHypothesis, List.forall_mem_cons]

/-- What is neither empty nor a single clause has two members or more. -/
theorem two_le_length
    {clauses : List Clause}
    (notEmpty : clauses ≠ [])
    (notSingle : ∀ clause, clauses ≠ [clause]) :
    2 ≤ clauses.length := by
  have notZero : clauses.length ≠ 0 := mt List.length_eq_zero_iff.mp notEmpty
  have notOne : clauses.length ≠ 1 := by
    intro one
    obtain ⟨clause, single⟩ := List.length_eq_one_iff.mp one
    exact notSingle clause single
  omega

/-- A conjunction of normal clauses is normal. -/
theorem isNormal_all
    {clauses : List Clause}
    (normal : ∀ clause ∈ clauses, clause.IsNormal) :
    (all clauses).IsNormal := by
  have keptNormal :
      ∀ clause ∈ clauses.filter (fun clause => !clause.isMatchAll),
        clause.isMatchAll = false ∧ clause.IsNormal := by
    intro clause isKept
    obtain ⟨member, restricts⟩ := List.mem_filter.mp isKept
    exact ⟨by simpa using restricts, normal clause member⟩
  unfold all
  split
  case h_1 =>
      trivial
  case h_2 clause kept =>
      exact (keptNormal clause (by simp [kept])).2
  case h_3 notEmpty notSingle =>
      exact ⟨two_le_length notEmpty notSingle, areNormalParts_iff.mpr keptNormal⟩

/-- A disjunction of normal clauses is normal. -/
theorem isNormal_any
    {clauses : List Clause}
    (normal : ∀ clause ∈ clauses, clause.IsNormal) :
    (any clauses).IsNormal := by
  unfold any
  split
  case isTrue =>
      trivial
  case isFalse noneMatchesAll =>
      have restrict : ∀ clause ∈ clauses, clause.isMatchAll = false ∧ clause.IsNormal := by
        intro clause member
        refine ⟨?_, normal clause member⟩
        exact Bool.eq_false_iff.mpr fun matchesAll =>
          noneMatchesAll (List.any_eq_true.mpr ⟨clause, member, matchesAll⟩)
      split
      case h_1 =>
          trivial
      case h_2 clause =>
          exact normal clause (List.mem_singleton_self clause)
      case h_3 notEmpty notSingle =>
          exact ⟨two_le_length notEmpty notSingle, areNormalParts_iff.mpr restrict⟩

theorem isNormal_within
    {chain : List String}
    {clause : Clause} :
    (clause.within chain).IsNormal ↔ clause.IsNormal := by
  induction chain with
  | nil =>
      rfl
  | cons path rest inductionHypothesis =>
      exact inductionHypothesis

/-- A conjunction matches everything when all of its members do. -/
theorem all_eq_matchAll_iff
    {clauses : List Clause} :
    all clauses = .matchAll ↔ ∀ clause ∈ clauses, clause = .matchAll := by
  have noneKept :
      clauses.filter (fun clause => !clause.isMatchAll) = [] ↔
        ∀ clause ∈ clauses, clause = .matchAll := by
    simp [List.filter_eq_nil_iff, isMatchAll_iff]
  rw [← noneKept]
  unfold all
  split
  case h_1 none =>
      simp [none]
  case h_2 clause kept =>
      have isKept : clause ∈ clauses.filter (fun clause => !clause.isMatchAll) := by simp [kept]
      have restricts := (List.mem_filter.mp isKept).2
      simp only [kept, List.cons_ne_nil, iff_false]
      rintro rfl
      simp [isMatchAll] at restricts
  case h_3 notEmpty _ =>
      simpa using notEmpty

/-- A disjunction matches everything when it has no members or one that does. -/
theorem any_eq_matchAll_iff
    {clauses : List Clause} :
    any clauses = .matchAll ↔ clauses = [] ∨ .matchAll ∈ clauses := by
  have someMatchesAll : clauses.any isMatchAll = true ↔ .matchAll ∈ clauses := by
    simp [List.any_eq_true, isMatchAll_iff]
  unfold any
  split
  case isTrue matchesAll =>
      simp [someMatchesAll.mp matchesAll]
  case isFalse noneMatchesAll =>
      rw [someMatchesAll] at noneMatchesAll
      split
      case h_1 =>
          simp
      case h_2 clause =>
          simp [eq_comm]
      case h_3 notEmpty _ =>
          simpa [noneMatchesAll] using notEmpty

/-- A conjunction of clauses restricts something when each of them does. -/
theorem isMatchAll_all
    {clauses : List Clause}
    (nonempty : clauses ≠ [])
    (restrict : ∀ clause ∈ clauses, clause.isMatchAll = false) :
    (all clauses).isMatchAll = false := by
  obtain ⟨clause, member⟩ := List.exists_mem_of_ne_nil clauses nonempty
  rw [Bool.eq_false_iff, ne_eq, isMatchAll_iff, all_eq_matchAll_iff]
  intro allMatchAll
  have restricts := restrict clause member
  rw [allMatchAll clause member] at restricts
  cases restricts

/-- A disjunction of clauses restricts something when each of them does. -/
theorem isMatchAll_any
    {clauses : List Clause}
    (nonempty : clauses ≠ [])
    (restrict : ∀ clause ∈ clauses, clause.isMatchAll = false) :
    (any clauses).isMatchAll = false := by
  rw [Bool.eq_false_iff, ne_eq, isMatchAll_iff, any_eq_matchAll_iff, or_iff_right nonempty]
  intro member
  cases restrict .matchAll member

end Clause

/-- A closed clause matches everything only if it was bare. -/
theorem Pending.close_eq_matchAll_iff
    {pending : Pending} :
    pending.close = .matchAll ↔ pending = .bare .matchAll := by
  obtain ⟨chain, clause⟩ := pending
  cases chain with
  | nil =>
      simp [close, bare, Clause.within]
  | cons path rest =>
      simp [close, bare, Clause.within]

namespace Scope

variable {join : List Clause → Clause}

/-- The clauses of a level match everything when there is nothing to group and all items do. -/
theorem forall_eq_matchAll_toClauses_iff
    {items : List Pending} :
    (∀ clause ∈ toClauses join (forest items), clause = .matchAll) ↔
      ∀ item ∈ items, item = .bare .matchAll := by
  have leveled :
      ∀ level,
        (∀ clause ∈ toClauses join level, clause = .matchAll) ↔
          AllUphold (fun _ clause => clause = .matchAll) (fun _ _ => False) level := by
    intro level
    induction level with
    | nil =>
        simp [toClauses, AllUphold]
    | cons scope rest inductionHypothesis =>
        rw [toClauses, List.forall_mem_cons, inductionHypothesis, AllUphold]
        cases scope with
        | bare clause =>
            simp [toClause, Upholds]
        | group path members =>
            simp [toClause, Upholds]
  rw [leveled, allUphold_forest]
  apply forall₂_congr
  rintro ⟨chain, clause⟩ _
  cases chain with
  | nil =>
      simp [everyStep_nil, Pending.bare]
  | cons path rest =>
      simp [everyStep_cons, Pending.bare]

theorem bare_mem_updateGroup_iff
    {path : String}
    {change : List Scope → List Scope}
    {clause : Clause}
    {level : List Scope} :
    .bare clause ∈ updateGroup path change level ↔ .bare clause ∈ level := by
  induction level with
  | nil =>
      simp [updateGroup]
  | cons scope rest inductionHypothesis =>
      cases scope with
      | bare other =>
          simp [updateGroup, inductionHypothesis]
      | group other members =>
          by_cases same : other = path
          · simp [updateGroup, same]
          · simp [updateGroup, same, inductionHypothesis]

/-- The bare clauses of a level are the items that need no scope. -/
theorem bare_mem_forest_iff
    {clause : Clause}
    {items : List Pending} :
    .bare clause ∈ forest items ↔ .bare clause ∈ items := by
  suffices entered :
      ∀ start,
        .bare clause ∈
            items.foldl (fun forest item => insert item.clause item.chain forest) start ↔
          Scope.bare clause ∈ start ∨ Pending.bare clause ∈ items by
    simpa [forest] using entered []
  induction items with
  | nil =>
      simp
  | cons item rest inductionHypothesis =>
      intro start
      obtain ⟨chain, other⟩ := item
      rw [List.foldl_cons, inductionHypothesis, List.mem_cons]
      cases chain with
      | nil =>
          simp [insert, Pending.bare, or_assoc]
      | cons path chain =>
          simp [insert, Pending.bare, bare_mem_updateGroup_iff]

/-- A level has a clause that matches everything when one of the items is such a bare one. -/
theorem matchAll_mem_toClauses_iff
    {items : List Pending} :
    .matchAll ∈ toClauses join (forest items) ↔ .bare .matchAll ∈ items := by
  have leveled : ∀ level, .matchAll ∈ toClauses join level ↔ .bare .matchAll ∈ level := by
    intro level
    induction level with
    | nil =>
        simp [toClauses]
    | cons scope rest inductionHypothesis =>
        cases scope with
        | bare clause =>
            simp [toClauses, toClause, inductionHypothesis]
        | group path members =>
            simp [toClauses, toClause, inductionHypothesis]
  rw [leveled, bare_mem_forest_iff]

end Scope

namespace Sqon

open Compiler

mutual
/--
Whether a tree is true by its shape alone: a leaf and a negation are not, a
conjunction is when all of its children are, and a disjunction when it has none
or one that is.
-/
def isTrivial : Sqon → Bool
  | .leaf _ => false
  | .combine .and content => allTrivial content
  | .combine .or content => content.isEmpty || someTrivial content
  | .combine .not _ => false

/-- Whether every tree of a list is true by its shape alone. -/
def allTrivial : List Sqon → Bool
  | [] => true
  | child :: rest => child.isTrivial && allTrivial rest

/-- Whether some tree of a list is true by its shape alone. -/
def someTrivial : List Sqon → Bool
  | [] => false
  | child :: rest => child.isTrivial || someTrivial rest
end

theorem allTrivial_eq_all
    (content : List Sqon) :
    allTrivial content = content.all isTrivial := by
  induction content with
  | nil =>
      rfl
  | cons child rest inductionHypothesis =>
      rw [allTrivial, inductionHypothesis, List.all_cons]

theorem someTrivial_eq_any
    (content : List Sqon) :
    someTrivial content = content.any isTrivial := by
  induction content with
  | nil =>
      rfl
  | cons child rest inductionHypothesis =>
      rw [someTrivial, inductionHypothesis, List.any_cons]

section Leaves

variable {field : Field} {condition : Leaf} {pending : Pending}

theorem isNormal_negation
    (normal : pending.clause.IsNormal) :
    (negation pending).clause.IsNormal :=
  Clause.isNormal_within.mpr normal

theorem isNormal_presence :
    (presence field).clause.IsNormal := by
  unfold presence
  split <;> trivial

/-- What a leaf compiles to is normal. -/
theorem isNormal_leafOutcome
    (outcome : LeafOutcome field condition pending) :
    pending.clause.IsNormal := by
  cases outcome with
  | isIn holdsValues nonempty fitting =>
      exact nonempty
  | notIn holdsValues nonempty fitting =>
      exact isNormal_negation nonempty
  | between rangeable shape bounded lowerFits upperFits =>
      simpa [onField, Clause.IsNormal] using bounded
  | atLeast =>
      exact .inl rfl
  | atMost =>
      exact .inr rfl
  | present =>
      exact isNormal_presence
  | missing =>
      exact isNormal_negation isNormal_presence
  | contains =>
      trivial

/-- A leaf restricts something, be it the number of objects of a nested field. -/
theorem leafOutcome_ne_bare_matchAll
    (outcome : LeafOutcome field condition pending) :
    pending ≠ .bare .matchAll := by
  cases outcome with
  | present =>
      unfold presence
      split <;> simp [onField, Pending.bare]
  | isIn | between | atLeast | atMost | contains =>
      simp [onField, Pending.bare]
  | notIn | missing =>
      simp [negation, Pending.bare]

end Leaves

section Siblings

variable {children : List Pending}

/-- A conjunction matches everything when all of its children do. -/
theorem joinSiblings_all_eq_bare_matchAll_iff
    (nonempty : children ≠ []) :
    joinSiblings .all children = .bare .matchAll ↔
      ∀ child ∈ children, child = .bare .matchAll := by
  rw [← Pending.close_eq_matchAll_iff, joinSiblings,
    Scope.close_joinBelow Clause.all_singleton nonempty commonChain_siblings_isPrefix,
    Clause.all_eq_matchAll_iff, Scope.forall_eq_matchAll_toClauses_iff]

/-- A disjunction matches everything when some child does. -/
theorem joinSiblings_any_eq_bare_matchAll_iff
    (nonempty : children ≠ []) :
    joinSiblings .any children = .bare .matchAll ↔ .bare .matchAll ∈ children := by
  have someClause : Scope.toClauses .any (Scope.forest children) ≠ [] :=
    Scope.toClauses_ne_nil (Scope.forest_ne_nil nonempty)
  rw [← Pending.close_eq_matchAll_iff, joinSiblings,
    Scope.close_joinBelow Clause.any_singleton nonempty commonChain_siblings_isPrefix,
    Clause.any_eq_matchAll_iff, or_iff_right someClause, Scope.matchAll_mem_toClauses_iff]

end Siblings

section Compile

variable {registry : Registry} {sqon : Sqon} {pending : Pending}

/-- Every tree that compiles has a normal outcome. -/
theorem Compiles.isNormal
    (compiles : Compiles registry sqon pending) :
    pending.clause.IsNormal := by
  induction sqon using inductionOnChildren generalizing pending with
  | leaf condition =>
      obtain ⟨field, -, outcome⟩ := compiles_leaf_iff.mp compiles
      exact isNormal_leafOutcome outcome
  | combine op content inductionHypothesis =>
      obtain ⟨children, compile, combination⟩ := compiles_combine_iff.mp compiles
      have childrenNormal : ∀ child ∈ children, child.clause.IsNormal := by
        intro child member
        obtain ⟨source, sourceMember, sourceCompiles⟩ := exists_left_of_forall₂ compile member
        exact inductionHypothesis source sourceMember sourceCompiles
      have joinNormal :
          ∀ {join : List Clause → Clause},
            (∀ {clauses}, (∀ clause ∈ clauses, Clause.IsNormal clause) → (join clauses).IsNormal) →
              (joinSiblings join children).clause.IsNormal := by
        intro join joined
        exact @Scope.onClause_joinBelow join (fun _ => Clause.IsNormal) (fun _ _ => True)
          joined (fun _ normal => normal) _ children commonChain_siblings_isPrefix
          fun child member => ⟨fun _ _ _ => trivial, childrenNormal child member⟩
      cases combination with
      | negation =>
          exact isNormal_negation (childrenNormal _ (List.mem_singleton_self _))
      | emptyAnd | emptyOr =>
          trivial
      | conjunction =>
          exact joinNormal Clause.isNormal_all
      | disjunction =>
          exact joinNormal Clause.isNormal_any

/-- A tree compiles to what matches everything only if it is true by its shape alone. -/
theorem Compiles.eq_bare_matchAll_iff
    (compiles : Compiles registry sqon pending) :
    pending = .bare .matchAll ↔ sqon.isTrivial = true := by
  induction sqon using inductionOnChildren generalizing pending with
  | leaf condition =>
      obtain ⟨field, -, outcome⟩ := compiles_leaf_iff.mp compiles
      simp [isTrivial, leafOutcome_ne_bare_matchAll outcome]
  | combine op content inductionHypothesis =>
      obtain ⟨children, compile, combination⟩ := compiles_combine_iff.mp compiles
      cases combination with
      | negation =>
          simp [isTrivial, negation, Pending.bare]
      | emptyAnd =>
          obtain rfl := List.forall₂_nil_right_iff.mp compile
          simp [isTrivial, allTrivial]
      | emptyOr =>
          obtain rfl := List.forall₂_nil_right_iff.mp compile
          simp [isTrivial]
      | conjunction nonempty =>
          rw [joinSiblings_all_eq_bare_matchAll_iff nonempty, isTrivial, allTrivial_eq_all,
            List.all_eq_true]
          constructor
          · intro allBare child member
            obtain ⟨outcome, outcomeMember, childCompiles⟩ := exists_right_of_forall₂ compile member
            exact (inductionHypothesis child member childCompiles).mp
              (allBare outcome outcomeMember)
          · intro allTrivial outcome outcomeMember
            obtain ⟨child, member, childCompiles⟩ := exists_left_of_forall₂ compile outcomeMember
            exact (inductionHypothesis child member childCompiles).mpr (allTrivial child member)
      | disjunction nonempty =>
          have contentNonempty : content.isEmpty = false := by
            cases compile with
            | nil =>
                exact (nonempty rfl).elim
            | cons =>
                rfl
          rw [joinSiblings_any_eq_bare_matchAll_iff nonempty, isTrivial, contentNonempty,
            Bool.false_or, someTrivial_eq_any, List.any_eq_true]
          constructor
          · intro someBare
            obtain ⟨child, member, childCompiles⟩ := exists_left_of_forall₂ compile someBare
            exact ⟨child, member, (inductionHypothesis child member childCompiles).mp rfl⟩
          · rintro ⟨child, member, trivial⟩
            obtain ⟨outcome, outcomeMember, childCompiles⟩ := exists_right_of_forall₂ compile member
            rwa [(inductionHypothesis child member childCompiles).mpr trivial] at outcomeMember

/--
Every compiled filter is normal: its conjunctions and disjunctions have two
members or more, none of which matches everything, its terms have a value and
its ranges a bound.  The filter matches everything exactly when its tree is
true by its shape alone.
-/
theorem compile_isNormal
    {limit : Nat}
    {clause : Clause}
    (compiled : sqon.compile registry limit = .ok clause) :
    clause.IsNormal ∧ (clause = .matchAll ↔ sqon.isTrivial = true) := by
  obtain ⟨-, pending, compiles, rfl⟩ := compile_eq_ok_iff.mp compiled
  constructor
  · exact Clause.isNormal_within.mpr compiles.isNormal
  · rw [Pending.close_eq_matchAll_iff]
    exact compiles.eq_bare_matchAll_iff

end Compile

/-- Open cases with a diagnosis of some donor, besides conditions that restrict nothing. -/
def openDiagnosedCases : Sqon :=
  .all [
    .all [],
    .any [.any [], inValues "donors__gender" [.string "female"]],
    present "donors",
    inValues "status" [.string "open"],
    .any [present "donors__diagnoses", inValues "donors__diagnoses__stage" [.string "II"]]]

/-- Two members are left, and what only asks for objects keeps its scopes. -/
def openDiagnosedCasesClause : Clause :=
  .and [
    .nested "donors" (.nested "donors.diagnoses" .matchAll),
    .term "status" [.string "open"]]

theorem compile_isNormal_openDiagnosedCases :
    openDiagnosedCases.compile caseRegistry 3 = .ok openDiagnosedCasesClause ∧
      openDiagnosedCasesClause.IsNormal ∧
      (openDiagnosedCasesClause = .matchAll ↔ openDiagnosedCases.isTrivial = true) := by
  have compiled : openDiagnosedCases.compile caseRegistry 3 = .ok openDiagnosedCasesClause := by
    cbv
  exact ⟨compiled, compile_isNormal compiled⟩

end Sqon

end FacetSearch
