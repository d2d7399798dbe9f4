import FacetSearch.Proofs.Sqon.Outcome

namespace FacetSearch.Sqon

/-!
# Pruned trees

Pruning a field keeps the order of what is left, never makes a tree deeper,
and never breaks one that compiles: a combinator that keeps any child keeps
the kind of content that it needs.
-/

open Compiler

section Shape

variable {field : String}

/-- What pruning leaves of a list is what it leaves of its trees, in order. -/
theorem withoutAll_eq_filterMap
    {content : List Sqon} :
    withoutAll field content = content.filterMap (without? field) := by
  induction content with
  | nil =>
      rfl
  | cons child rest inductionHypothesis =>
      rw [withoutAll, List.filterMap_cons, inductionHypothesis]
      cases without? field child <;> rfl

theorem without?_leaf_eq_some_iff
    {condition : Leaf}
    {kept : Sqon} :
    without? field (.leaf condition) = some kept ↔
      condition.field ≠ field ∧ kept = .leaf condition := by
  rw [without?]
  by_cases onField : condition.field = field
  · simp [onField]
  · simp [onField, eq_comm]

/-- A combinator is left with what is left of its content, unless that empties it. -/
theorem without?_combine_eq_some_iff
    {op : Combinator}
    {content : List Sqon}
    {kept : Sqon} :
    without? field (.combine op content) = some kept ↔
      (withoutAll field content = [] → content = []) ∧
        kept = .combine op (withoutAll field content) := by
  simp only [without?]
  split
  case isTrue emptied =>
      obtain ⟨noneLeft, someBefore⟩ : withoutAll field content = [] ∧ content ≠ [] := by
        simpa using emptied
      simp [noneLeft, someBefore]
  case isFalse kept =>
      have keeps : withoutAll field content = [] → content = [] := by
        simpa using kept
      rw [Option.some.injEq, and_iff_right keeps]
      exact eq_comm

/-- Pruning makes no tree deeper. -/
theorem depth_le_of_without?
    {sqon kept : Sqon}
    (left : without? field sqon = some kept) :
    kept.depth ≤ sqon.depth := by
  induction sqon using inductionOnChildren generalizing kept with
  | leaf condition =>
      obtain ⟨-, rfl⟩ := without?_leaf_eq_some_iff.mp left
      exact Nat.le_refl _
  | combine op content inductionHypothesis =>
      obtain ⟨-, rfl⟩ := without?_combine_eq_some_iff.mp left
      have shallower : depthOf (withoutAll field content) ≤ depthOf content := by
        rw [depthOf_le_iff, withoutAll_eq_filterMap]
        intro childKept keptMember
        obtain ⟨child, member, childLeft⟩ := List.mem_filterMap.mp keptMember
        have childDepth := depthOf_le_iff.mp (Nat.le_refl (depthOf content)) child member
        exact Nat.le_trans (inductionHypothesis child member childLeft) childDepth
      simpa only [depth, Nat.add_le_add_iff_right] using shallower

end Shape

section Outcomes

variable {registry : Registry} {field : String}

/--
A tree and what pruning leaves of it compile to two outcomes, the first of the
pair and the second.
-/
def Survives
    (registry : Registry)
    (field : String)
    (sqon : Sqon)
    (outcomes : Pending × Pending) :
    Prop :=
  ∃ kept,
    without? field sqon = some kept ∧
      Compiles registry sqon outcomes.1 ∧ Compiles registry kept outcomes.2

/--
When pruning breaks no child, the children that survive it have pairs of
outcomes: the first ones are among the outcomes of the content, the second
ones are those of what is left of the content.
-/
theorem exists_survivors
    {content : List Sqon}
    {children : List Pending}
    (compile : List.Forall₂ (Compiles registry) content children)
    (unbroken :
      ∀ child ∈ content, ∀ outcome, Compiles registry child outcome →
        ∀ kept, without? field child = some kept →
          ∃ keptOutcome, Compiles registry kept keptOutcome) :
    ∃ survivors : List (Pending × Pending),
      (∀ outcomes ∈ survivors, outcomes.1 ∈ children) ∧
        List.Forall₂ (Compiles registry) (withoutAll field content)
          (survivors.map Prod.snd) ∧
        List.Forall₂ (Survives registry field)
          (content.filter fun child => (without? field child).isSome) survivors := by
  induction compile with
  | nil =>
      exact ⟨[], by simp, .nil, .nil⟩
  | @cons child outcome rest outcomes compiles compile inductionHypothesis =>
      rw [List.forall_mem_cons] at unbroken
      obtain ⟨survivors, among, restCompile, survive⟩ := inductionHypothesis unbroken.2
      have amongLater : ∀ outcomes' ∈ survivors, outcomes'.1 ∈ outcome :: outcomes :=
        fun pair member => List.mem_cons_of_mem _ (among pair member)
      cases left : without? field child with
      | none =>
          exact ⟨survivors, amongLater, by simpa [withoutAll, left] using restCompile,
            by simpa [left] using survive⟩
      | some kept =>
          obtain ⟨keptOutcome, keptCompiles⟩ := unbroken.1 outcome compiles kept left
          refine ⟨(outcome, keptOutcome) :: survivors, ?_, ?_, ?_⟩
          · rw [List.forall_mem_cons]
            exact ⟨by simp, amongLater⟩
          · rw [withoutAll, left]
            exact .cons keptCompiles restCompile
          · rw [List.filter_cons_of_pos (by simp [left])]
            exact .cons ⟨kept, left, compiles, keptCompiles⟩ survive

/-- What pruning leaves of a tree that compiles compiles as well. -/
theorem Compiles.exists_of_without?
    {sqon kept : Sqon}
    {pending : Pending}
    (compiles : Compiles registry sqon pending)
    (left : without? field sqon = some kept) :
    ∃ keptPending, Compiles registry kept keptPending := by
  induction sqon using inductionOnChildren generalizing kept pending with
  | leaf condition =>
      obtain ⟨-, rfl⟩ := without?_leaf_eq_some_iff.mp left
      exact ⟨pending, compiles⟩
  | combine op content inductionHypothesis =>
      obtain ⟨keeps, rfl⟩ := without?_combine_eq_some_iff.mp left
      obtain ⟨children, compile, combination⟩ := compiles_combine_iff.mp compiles
      obtain ⟨survivors, -, keptCompile, -⟩ :=
        exists_survivors compile fun child member outcome childCompiles childKept childLeft =>
          inductionHypothesis child member childCompiles childLeft
      -- A negation that is left has its only operand left: without it, it would be gone.
      have single : op = .not → (survivors.map Prod.snd).length = 1 := by
        intro isNot
        have one : content.length = 1 :=
          compile.length_eq.trans (exists_combination_iff.mp ⟨pending, combination⟩ isNot)
        have atMostOne : (withoutAll field content).length ≤ 1 := by
          rw [withoutAll_eq_filterMap, ← one]
          exact List.length_filterMap_le _ _
        have someLeft : withoutAll field content ≠ [] := by
          intro noneLeft
          simp [keeps noneLeft] at one
        rw [← keptCompile.length_eq]
        have positive := List.length_pos_of_ne_nil someLeft
        omega
      obtain ⟨keptPending, keptCombination⟩ := exists_combination_iff.mpr single
      exact ⟨keptPending, compiles_combine_iff.mpr ⟨_, keptCompile, keptCombination⟩⟩

end Outcomes

end FacetSearch.Sqon
