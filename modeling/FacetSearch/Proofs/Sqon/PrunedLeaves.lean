import FacetSearch.Proofs.Sqon.Conservation
import FacetSearch.Proofs.Sqon.Pruning

namespace FacetSearch.Sqon

/-!
# Pruning removes what it should

A tree that is pruned of a field loses its leaves on that field and nothing
else: the other leaves stay as they are and in their order.  Combinators that
pruning empties go as well, while those without children stay; so a tree is
pruned away when all of its leaves are and every combinator has a child.
Fields are pruned independently of each other.
-/

section Leaves

variable {field : String}

/-- A combinator vanishes when it had children and none of them is left. -/
theorem without?_combine
    {op : Combinator}
    {content : List Sqon} :
    without? field (.combine op content) =
      if withoutAll field content = [] ∧ content ≠ [] then none
      else some (.combine op (withoutAll field content)) := by
  simp [without?]

theorem leavesOf_singleton
    (sqon : Sqon) :
    leavesOf [sqon] = sqon.leaves := by
  simp [leavesOf]

theorem forall_mem_leavesOf_iff
    {holds : Leaf → Prop}
    {content : List Sqon} :
    (∀ leaf ∈ leavesOf content, holds leaf) ↔
      ∀ child ∈ content, ∀ leaf ∈ child.leaves, holds leaf := by
  induction content with
  | nil =>
      simp [leavesOf]
  | cons child rest inductionHypothesis =>
      rw [leavesOf, List.forall_mem_append, inductionHypothesis, List.forall_mem_cons]

/-- Whether or not a combinator is emptied, the leaves that it leaves are those of its content. -/
theorem leavesOf_without?_combine
    {op : Combinator}
    {content : List Sqon} :
    leavesOf (without? field (.combine op content)).toList =
      leavesOf (withoutAll field content) := by
  rw [without?_combine]
  split
  case isTrue emptied =>
      rw [emptied.1]
      rfl
  case isFalse =>
      exact leavesOf_singleton _

/-- A list that is pruned tree by tree keeps the leaves that its trees keep. -/
theorem leavesOf_withoutAll
    {content : List Sqon}
    (each :
      ∀ child ∈ content,
        leavesOf (without? field child).toList =
          child.leaves.filter fun leaf => leaf.field ≠ field) :
    leavesOf (withoutAll field content) =
      (leavesOf content).filter fun leaf => leaf.field ≠ field := by
  induction content with
  | nil =>
      rfl
  | cons child rest inductionHypothesis =>
      rw [List.forall_mem_cons] at each
      rw [leavesOf, List.filter_append, ← each.1, ← inductionHypothesis each.2, withoutAll]
      cases without? field child with
      | none =>
          rfl
      | some kept =>
          rw [Option.toList_some, leavesOf_singleton]
          rfl

/-- The leaves of a pruned tree are those on other fields, unchanged and in their order. -/
theorem leavesOf_without?
    (field : String)
    (sqon : Sqon) :
    leavesOf (sqon.without? field).toList =
      sqon.leaves.filter fun leaf => leaf.field ≠ field := by
  induction sqon using inductionOnChildren with
  | leaf condition =>
      by_cases onField : condition.field = field <;>
        simp [without?, leaves, leavesOf, onField]
  | combine op content inductionHypothesis =>
      rw [leavesOf_without?_combine, leaves]
      exact leavesOf_withoutAll inductionHypothesis

theorem references_eq_false_iff
    {sqon : Sqon} :
    sqon.references field = false ↔ ∀ leaf ∈ sqon.leaves, leaf.field ≠ field := by
  simp [references, fields]

/-- What pruning leaves of a tree does not test the field any more. -/
theorem references_of_without?
    {sqon kept : Sqon}
    (left : sqon.without? field = some kept) :
    kept.references field = false := by
  have keptLeaves := leavesOf_without? field sqon
  rw [left, Option.toList_some, leavesOf_singleton] at keptLeaves
  rw [references_eq_false_iff, keptLeaves]
  intro leaf isKept
  simpa using (List.mem_filter.mp isKept).2

/-- A tree is left as it is exactly when it does not test the field. -/
theorem without?_eq_self_iff
    {sqon : Sqon} :
    sqon.without? field = some sqon ↔ sqon.references field = false := by
  constructor
  · exact references_of_without?
  · intro unreferenced
    rw [references_eq_false_iff] at unreferenced
    induction sqon using inductionOnChildren with
    | leaf condition =>
        have elsewhere := unreferenced condition (List.mem_singleton_self condition)
        exact without?_leaf_eq_some_iff.mpr ⟨elsewhere, rfl⟩
    | combine op content inductionHypothesis =>
        rw [leaves, forall_mem_leavesOf_iff] at unreferenced
        have unchanged : withoutAll field content = content := by
          rw [withoutAll_eq_filterMap]
          refine (List.filterMap_congr ?_).trans List.filterMap_some
          intro child member
          exact inductionHypothesis child member (unreferenced child member)
        rw [without?_combine_eq_some_iff, unchanged]
        exact ⟨id, rfl⟩

end Leaves

section Vanishing

variable {field : String}

theorem without?_combine_eq_none_iff
    {op : Combinator}
    {content : List Sqon} :
    without? field (.combine op content) = none ↔
      withoutAll field content = [] ∧ content ≠ [] := by
  simp only [without?_combine, ite_eq_left_iff, reduceCtorEq, imp_false, not_not]

/-- A tree is pruned away when all of its leaves are on the field and no combinator is childless. -/
theorem without?_eq_none_iff
    {sqon : Sqon} :
    sqon.without? field = none ↔ (∀ leaf ∈ sqon.leaves, leaf.field = field) ∧ sqon.IsFilled := by
  induction sqon using inductionOnChildren with
  | leaf condition =>
      simp [without?, leaves, IsFilled]
  | combine op content inductionHypothesis =>
      have eachVanishes :
          withoutAll field content = [] ↔
            ∀ child ∈ content,
              (∀ leaf ∈ child.leaves, leaf.field = field) ∧ child.IsFilled := by
        rw [withoutAll_eq_filterMap, List.filterMap_eq_nil_iff]
        exact forall₂_congr inductionHypothesis
      rw [without?_combine_eq_none_iff, eachVanishes, leaves, forall_mem_leavesOf_iff, IsFilled,
        areFilled_iff, forall₂_and, and_assoc, and_comm (a := content ≠ [])]

end Vanishing

section Twice

variable {first second : String}

theorem withoutAll_withoutAll
    {content : List Sqon} :
    withoutAll second (withoutAll first content) =
      content.filterMap fun child => (child.without? first).bind (without? second) := by
  rw [withoutAll_eq_filterMap, withoutAll_eq_filterMap, List.filterMap_filterMap]

theorem bind_without?_leaf
    {condition : Leaf} :
    (without? first (.leaf condition)).bind (without? second) =
      if condition.field = first ∨ condition.field = second then none
      else some (.leaf condition) := by
  by_cases onFirst : condition.field = first <;> simp [without?, onFirst]

/-- A combinator that is pruned twice vanishes when it had children and in the end none is left. -/
theorem bind_without?_combine
    {op : Combinator}
    {content : List Sqon} :
    (without? first (.combine op content)).bind (without? second) =
      if withoutAll second (withoutAll first content) = [] ∧ content ≠ [] then none
      else some (.combine op (withoutAll second (withoutAll first content))) := by
  rw [without?_combine]
  split
  case isTrue emptied =>
      rw [emptied.1, if_pos ⟨rfl, emptied.2⟩]
      rfl
  case isFalse kept =>
      -- The first pruning leaves children exactly where there were some.
      have emptyAlike : withoutAll first content = [] ↔ content = [] := by
        constructor
        · intro noneLeft
          simpa [noneLeft] using kept
        · intro noneBefore
          rw [noneBefore]
          rfl
      simp only [Option.bind_some, without?_combine, ne_eq, emptyAlike]

/-- Fields are pruned independently of each other: which one goes first does not matter. -/
theorem without?_comm
    (first second : String)
    (sqon : Sqon) :
    (sqon.without? first).bind (without? second) =
      (sqon.without? second).bind (without? first) := by
  induction sqon using inductionOnChildren with
  | leaf condition =>
      simp only [bind_without?_leaf, or_comm]
  | combine op content inductionHypothesis =>
      have sameLeft :
          withoutAll second (withoutAll first content) =
            withoutAll first (withoutAll second content) := by
        rw [withoutAll_withoutAll, withoutAll_withoutAll]
        exact List.filterMap_congr inductionHypothesis
      rw [bind_without?_combine, bind_without?_combine, sameLeft]

/-- What is left of a tree is left as it is by pruning the same field again. -/
theorem without?_idem
    (field : String)
    (sqon : Sqon) :
    (sqon.without? field).bind (without? field) = sqon.without? field := by
  cases left : sqon.without? field with
  | none =>
      rfl
  | some kept =>
      exact without?_eq_self_iff.mpr (references_of_without? left)

end Twice

/--
Pruning a tree of a field removes its leaves on the field, and nothing but what
this empties.  The other leaves stay as they are and in their order; a tree
that does not test the field stays as it is; it does not matter in which order
fields are pruned, nor how often; and nothing is left when every leaf was on
the field and no combinator was without children.
-/
theorem without?_removes_exactly
    (sqon : Sqon)
    (field other : String) :
    (leavesOf (sqon.without? field).toList =
          sqon.leaves.filter (fun leaf => leaf.field ≠ field) ∧
        ∀ kept ∈ sqon.without? field, kept.references field = false) ∧
      (sqon.without? field = some sqon ↔ sqon.references field = false) ∧
      ((sqon.without? field).bind (without? other) =
          (sqon.without? other).bind (without? field) ∧
        (sqon.without? field).bind (without? field) = sqon.without? field) ∧
      (sqon.without? field = none ↔
        (∀ leaf ∈ sqon.leaves, leaf.field = field) ∧ sqon.IsFilled) := by
  refine ⟨⟨leavesOf_without? field sqon, ?_⟩, without?_eq_self_iff, ⟨?_, ?_⟩,
    without?_eq_none_iff⟩
  · intro kept left
    exact references_of_without? left
  · exact without?_comm field other sqon
  · exact without?_idem field sqon

/-- Cases that are not closed, with a choice between no conditions, and open ones of men. -/
def openCasesOfMenOrNone : Sqon :=
  .all [
    .negate (.inValues "status" [.string "closed"]),
    .any [],
    .all [
      .inValues "donors__gender" [.string "male"],
      .inValues "status" [.string "open"]]]

/-- Without the status and the gender only the choice is left that was empty as it was written. -/
theorem without?_removes_exactly_of_openCasesOfMenOrNone :
    openCasesOfMenOrNone.without? "status" =
        some (.all [.any [], .all [.inValues "donors__gender" [.string "male"]]]) ∧
      (Sqon.all [.any [], .all [.inValues "donors__gender" [.string "male"]]]).references
          "status" =
        false ∧
      (openCasesOfMenOrNone.without? "donors__gender").bind (without? "status") =
        some (.all [.any []]) := by
  have pruned :
      openCasesOfMenOrNone.without? "status" =
        some (.all [.any [], .all [.inValues "donors__gender" [.string "male"]]]) := by
    rfl
  obtain ⟨⟨-, unreferenced⟩, -, ⟨alike, -⟩, -⟩ :=
    without?_removes_exactly openCasesOfMenOrNone "status" "donors__gender"
  refine ⟨pruned, unreferenced _ pruned, ?_⟩
  rw [← alike, pruned]
  rfl

end FacetSearch.Sqon
