import FacetSearch.Clause.Meaning

namespace FacetSearch

/-!
# The connectives keep their meaning

Joining clauses drops those that match everything and unwraps single ones.
None of this changes what the join says about an object: a conjunction holds
when every part does, a disjunction when some part does, and a clause inside a
chain of scopes when it holds of an object that the chain leads to.
-/

namespace DocumentTree

variable {α : Type}

/-- The objects that a chain of nested fields leads to. -/
def descendants : List String → DocumentTree α → List (DocumentTree α)
  | [], start => [start]
  | path :: rest, start => (start.children path).flatMap (descendants rest)

theorem mem_descendants_cons
    {path : String}
    {rest : List String}
    {start descendant : DocumentTree α} :
    descendant ∈ start.descendants (path :: rest) ↔
      ∃ child ∈ start.children path, descendant ∈ child.descendants rest := by
  simp [descendants]

end DocumentTree

namespace Clause

variable {α : Type} {test : ObjectTest α} {object : DocumentTree α}

theorem isMatchAll_iff
    {clause : Clause} :
    clause.isMatchAll = true ↔ clause = .matchAll := by
  cases clause <;> simp [isMatchAll]

/-- The conjunction of a list holds when all of its members do. -/
theorem holds_all
    {clauses : List Clause} :
    (all clauses).holds test object = true ↔
      ∀ clause ∈ clauses, clause.holds test object = true := by
  have droppedHolds :
      (∀ clause ∈ clauses.filter (fun clause => !clause.isMatchAll),
          clause.holds test object = true) ↔
        ∀ clause ∈ clauses, clause.holds test object = true := by
    constructor
    · intro keptHold clause member
      by_cases matchesAll : clause.isMatchAll = true
      · rw [isMatchAll_iff.mp matchesAll, holds]
      · exact keptHold clause (List.mem_filter.mpr ⟨member, by simpa using matchesAll⟩)
    · intro allHold clause member
      exact allHold clause (List.mem_filter.mp member).1
  rw [← droppedHolds, all]
  split
  case h_1 kept =>
      simp [kept, holds]
  case h_2 clause kept =>
      simp [kept]
  case h_3 kept _ _ =>
      simp only [holds, allHold_eq_all, List.all_eq_true]

/-- A clause on its own is its conjunction. -/
theorem all_singleton
    (clause : Clause) :
    all [clause] = clause := by
  cases matchesAll : clause.isMatchAll with
  | true =>
      rw [isMatchAll_iff.mp matchesAll]
      rfl
  | false =>
      simp [all, matchesAll]

theorem any_singleton
    (clause : Clause) :
    any [clause] = clause := by
  cases clause <;> simp [any, isMatchAll]

/-- The disjunction of a nonempty list holds when one of its members does. -/
theorem holds_any
    {clauses : List Clause}
    (nonempty : clauses ≠ []) :
    (any clauses).holds test object = true ↔
      ∃ clause ∈ clauses, clause.holds test object = true := by
  unfold any
  split
  case isTrue matchesAll =>
      obtain ⟨clause, member, isMatchAll⟩ := List.any_eq_true.mp matchesAll
      rw [isMatchAll_iff] at isMatchAll
      subst clause
      simp only [holds, true_iff]
      exact ⟨.matchAll, member, by rw [holds]⟩
  case isFalse =>
      split
      case h_1 =>
          exact (nonempty rfl).elim
      case h_2 clause =>
          simp
      case h_3 several _ _ =>
          simp only [holds, someHold_eq_any, List.any_eq_true]

/-- A clause inside a chain of scopes holds when it does of an object that the chain leads to. -/
theorem holds_within
    {chain : List String}
    {clause : Clause} :
    (clause.within chain).holds test object = true ↔
      ∃ descendant ∈ object.descendants chain, clause.holds test descendant = true := by
  induction chain generalizing object with
  | nil =>
      simp [within, DocumentTree.descendants]
  | cons path rest inductionHypothesis =>
      have unfolded : clause.within (path :: rest) = .nested path (clause.within rest) := rfl
      rw [unfolded, holds, List.any_eq_true]
      simp only [inductionHypothesis, DocumentTree.mem_descendants_cons]
      constructor
      · rintro ⟨child, isChild, descendant, reached, holdsThere⟩
        exact ⟨descendant, ⟨child, isChild, reached⟩, holdsThere⟩
      · rintro ⟨descendant, ⟨child, isChild, reached⟩, holdsThere⟩
        exact ⟨child, isChild, descendant, reached, holdsThere⟩

end Clause

end FacetSearch
