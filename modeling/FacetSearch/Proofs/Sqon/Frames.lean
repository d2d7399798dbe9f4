import FacetSearch.Proofs.Sqon.Joining

namespace FacetSearch.Sqon

/-!
# Trees inside frames

A tree in some place of a filter is the rest of the filter, frame by frame,
filled with that tree.  When another tree is put in its place, the outcomes of
all nodes around it change step by step: what opens scopes earlier is looser
inside every frame that does not negate, and a negation closes all scopes of
its child in any case.  Only an `and` whose other children shared a nested
ancestor with the tree can tell an outcome from a looser one that holds of the
same objects.
-/

open Compiler

/-- A node without one of its children. -/
structure Frame where
  op : Combinator
  before : List Sqon
  after : List Sqon

/-- Put a tree in the place of the missing child. -/
def Frame.fill
    (frame : Frame)
    (sqon : Sqon) :
    Sqon :=
  .combine frame.op (frame.before ++ sqon :: frame.after)

/-- Put a tree inside frames, the innermost of them first. -/
def inside : List Frame → Sqon → Sqon
  | [], sqon => sqon
  | frame :: outer, sqon => inside outer (frame.fill sqon)

/-- A sibling shares the same nested ancestors with the second tree as with the first. -/
def SharesAlike
    (registry : Registry)
    (first second sibling : Sqon) :
    Prop :=
  ∀ outcome pending pending',
    Compiles registry sibling outcome →
    Compiles registry first pending →
    Compiles registry second pending' →
    commonChainOfTwo outcome.chain pending'.chain = commonChainOfTwo outcome.chain pending.chain

/--
At every `and` among the frames, the siblings share the same nested ancestors
with what holds the second tree as with what holds the first.
-/
def KeepsShared (registry : Registry) : List Frame → Sqon → Sqon → Prop
  | [], _, _ => True
  | frame :: outer, first, second =>
      (frame.op = .and →
        ∀ sibling ∈ frame.before ++ frame.after, SharesAlike registry first second sibling) ∧
        KeepsShared registry outer (frame.fill first) (frame.fill second)

/-- Whatever two trees compile to is related. -/
def OutcomesRelate
    (registry : Registry)
    (related : Pending → Pending → Prop)
    (first second : Sqon) :
    Prop :=
  ∀ pending pending',
    Compiles registry first pending → Compiles registry second pending' → related pending pending'

/-- Frames keep the order of depths. -/
theorem depth_inside_mono
    {frames : List Frame}
    {first second : Sqon}
    (shallower : first.depth ≤ second.depth) :
    (inside frames first).depth ≤ (inside frames second).depth := by
  induction frames generalizing first second with
  | nil =>
      exact shallower
  | cons frame outer inductionHypothesis =>
      apply inductionHypothesis
      simp only [Frame.fill, depth, depthOf_append, depthOf]
      omega

section Outcomes

variable {registry : Registry} {first second : Sqon} {frame : Frame}

/-- A filled frame compiles to the combination of its tree with the children around it. -/
theorem compiles_fill_iff
    {sqon : Sqon}
    {pending : Pending} :
    Compiles registry (frame.fill sqon) pending ↔
      ∃ earlier outcome later,
        List.Forall₂ (Compiles registry) frame.before earlier ∧
          Compiles registry sqon outcome ∧
            List.Forall₂ (Compiles registry) frame.after later ∧
              Combination frame.op (earlier ++ outcome :: later) pending := by
  rw [Frame.fill, compiles_combine_iff]
  constructor
  · rintro ⟨children, compile, combination⟩
    obtain ⟨earlier, rest, beforeCompile, restCompile, rfl⟩ := outcomes_append_iff.mp compile
    obtain ⟨outcome, later, compiles, afterCompile, rfl⟩ :=
      List.forall₂_cons_left_iff.mp restCompile
    exact ⟨earlier, outcome, later, beforeCompile, compiles, afterCompile, combination⟩
  · rintro ⟨earlier, outcome, later, beforeCompile, compiles, afterCompile, combination⟩
    exact ⟨_, outcomes_append_iff.mpr ⟨_, _, beforeCompile, .cons compiles afterCompile, rfl⟩,
      combination⟩

/-- Whether a filled frame compiles depends on whether its tree does, and not on what to. -/
theorem exists_compiles_fill
    (compilesToo :
      (∃ pending, Compiles registry first pending) → ∃ pending, Compiles registry second pending)
    (compiles : ∃ pending, Compiles registry (frame.fill first) pending) :
    ∃ pending, Compiles registry (frame.fill second) pending := by
  obtain ⟨pending, compiles⟩ := compiles
  obtain ⟨earlier, outcome, later, beforeCompile, firstCompiles, afterCompile, combination⟩ :=
    compiles_fill_iff.mp compiles
  obtain ⟨outcome', secondCompiles⟩ := compilesToo ⟨outcome, firstCompiles⟩
  have operands := exists_combination_iff.mp ⟨pending, combination⟩
  obtain ⟨pending', combination'⟩ :
      ∃ pending', Combination frame.op (earlier ++ outcome' :: later) pending' :=
    exists_combination_iff.mpr (by simpa using operands)
  exact ⟨pending', compiles_fill_iff.mpr
    ⟨earlier, outcome', later, beforeCompile, secondCompiles, afterCompile, combination'⟩⟩

theorem exists_compiles_inside_iff
    {frames : List Frame}
    (alike :
      (∃ pending, Compiles registry first pending) ↔ ∃ pending, Compiles registry second pending) :
    (∃ pending, Compiles registry (inside frames first) pending) ↔
      ∃ pending, Compiles registry (inside frames second) pending := by
  induction frames generalizing first second with
  | nil =>
      exact alike
  | cons frame outer inductionHypothesis =>
      exact inductionHypothesis ⟨exists_compiles_fill alike.mp, exists_compiles_fill alike.mpr⟩

/-- Of one frame that is filled with two trees, the outcomes differ at the place of the tree. -/
theorem exists_outcomes_of_fill
    {pending pending' : Pending}
    (compiles : Compiles registry (frame.fill first) pending)
    (compiles' : Compiles registry (frame.fill second) pending') :
    ∃ earlier later outcome outcome',
      List.Forall₂ (Compiles registry) (frame.before ++ frame.after) (earlier ++ later) ∧
        Compiles registry first outcome ∧
          Compiles registry second outcome' ∧
            Combination frame.op (earlier ++ outcome :: later) pending ∧
              Combination frame.op (earlier ++ outcome' :: later) pending' := by
  obtain ⟨earlier, outcome, later, beforeCompile, firstCompiles, afterCompile, combination⟩ :=
    compiles_fill_iff.mp compiles
  obtain ⟨earlier', outcome', later', beforeCompile', secondCompiles, afterCompile',
    combination'⟩ := compiles_fill_iff.mp compiles'
  obtain rfl := outcomes_unique beforeCompile beforeCompile'
  obtain rfl := outcomes_unique afterCompile afterCompile'
  exact ⟨earlier, later, outcome, outcome', List.rel_append beforeCompile afterCompile,
    firstCompiles, secondCompiles, combination, combination'⟩

end Outcomes

section Relations

variable {registry : Registry} {first second : Sqon} {α : Type} {test : ObjectTest α}

/-- Where one item is exchanged for a related one, every item has a related one. -/
theorem exists_related_of_exchange
    (related : Pending → Pending → Prop)
    (refl : ∀ item, related item item)
    (earlier later : List Pending)
    {outcome outcome' : Pending}
    (exchanged : related outcome outcome') :
    ∀ item ∈ earlier ++ outcome :: later,
      ∃ other ∈ earlier ++ outcome' :: later, related item other := by
  intro item member
  rcases List.mem_append.mp member with inEarlier | inRest
  · exact ⟨item, List.mem_append_left _ inEarlier, refl item⟩
  · rcases List.mem_cons.mp inRest with rfl | inLater
    · exact ⟨outcome', by simp, exchanged⟩
    · exact ⟨item, by simp [inLater], refl item⟩

/-- A frame that does not negate is looser around what is looser. -/
theorem loosens_fill
    {frame : Frame}
    (positive : frame.op ≠ .not)
    (loosens : OutcomesRelate registry (Loosens test) first second) :
    OutcomesRelate registry (Loosens test) (frame.fill first) (frame.fill second) := by
  intro pending pending' compiles compiles'
  obtain ⟨earlier, later, outcome, outcome', -, firstCompiles, secondCompiles, combination,
    combination'⟩ := exists_outcomes_of_fill compiles compiles'
  have exchanged := loosens outcome outcome' firstCompiles secondCompiles
  have loosen :=
    exists_related_of_exchange (Loosens test) Loosens.refl earlier later exchanged
  have back :=
    exists_related_of_exchange (flip (Loosens test)) Loosens.refl earlier later exchanged
  cases op : frame.op with
  | not =>
      exact (positive op).elim
  | and =>
      rw [op] at combination combination'
      rw [combination.eq_of_and (by simp), combination'.eq_of_and (by simp)]
      exact loosens_joinSiblings_all (by simp) loosen back
  | or =>
      rw [op] at combination combination'
      rw [combination.eq_of_or (by simp), combination'.eq_of_or (by simp)]
      exact loosens_joinSiblings_any (by simp) loosen

/-- A frame that does not negate is wider around what is wider, if no sibling shares more. -/
theorem widens_fill
    {frame : Frame}
    (positive : frame.op ≠ .not)
    (alike :
      frame.op = .and →
        ∀ sibling ∈ frame.before ++ frame.after, SharesAlike registry first second sibling)
    (widens : OutcomesRelate registry (flip (Widens test)) first second) :
    OutcomesRelate registry (flip (Widens test)) (frame.fill first) (frame.fill second) := by
  intro pending pending' compiles compiles'
  obtain ⟨earlier, later, outcome, outcome', siblingsCompile, firstCompiles, secondCompiles,
    combination, combination'⟩ := exists_outcomes_of_fill compiles compiles'
  have exchanged := widens outcome outcome' firstCompiles secondCompiles
  have widen :=
    exists_related_of_exchange (Widens test) Widens.refl earlier later exchanged
  have back :=
    exists_related_of_exchange (flip (Widens test)) Widens.refl earlier later exchanged
  cases op : frame.op with
  | not =>
      exact (positive op).elim
  | and =>
      rw [op] at combination combination'
      rw [combination.eq_of_and (by simp), combination'.eq_of_and (by simp)]
      -- The wider outcome goes deeper, but no deeper along with a sibling than before.
      apply widens_joinSiblings_exchange exchanged
      intro other member chain beginsOutcome beginsOther
      obtain ⟨sibling, siblingMember, siblingCompiles⟩ :=
        exists_left_of_forall₂ siblingsCompile member
      have sharedBefore : chain <+: commonChainOfTwo other.chain outcome.chain :=
        isPrefix_commonChainOfTwo_iff.mpr ⟨beginsOther, beginsOutcome⟩
      rw [← alike op sibling siblingMember other outcome outcome' siblingCompiles firstCompiles
        secondCompiles] at sharedBefore
      exact (isPrefix_commonChainOfTwo_iff.mp sharedBefore).symm
  | or =>
      rw [op] at combination combination'
      rw [combination.eq_of_or (by simp), combination'.eq_of_or (by simp)]
      exact widens_joinSiblings_any (by simp) widen back

theorem outcomesRelate_recloses_iff :
    OutcomesRelate registry (Recloses test) first second ↔
      OutcomesRelate registry (Loosens test) first second ∧
        OutcomesRelate registry (flip (Widens test)) first second := by
  simp only [OutcomesRelate, Recloses, flip, imp_and, forall_and]

/-- A negation closes the scopes of its child, in whatever shape they come. -/
theorem recloses_fill_of_not
    {frame : Frame}
    (negates : frame.op = .not)
    (recloses : OutcomesRelate registry (Recloses test) first second) :
    OutcomesRelate registry (Recloses test) (frame.fill first) (frame.fill second) := by
  intro pending pending' compiles compiles'
  obtain ⟨earlier, later, outcome, outcome', -, firstCompiles, secondCompiles, combination,
    combination'⟩ := exists_outcomes_of_fill compiles compiles'
  rw [negates] at combination combination'
  obtain ⟨child, single, rfl⟩ := combination.eq_of_not
  obtain ⟨child', single', rfl⟩ := combination'.eq_of_not
  have isOutcome : outcome ∈ [child] := by simp [← single]
  have isOutcome' : outcome' ∈ [child'] := by simp [← single']
  obtain rfl := List.mem_singleton.mp isOutcome
  obtain rfl := List.mem_singleton.mp isOutcome'
  apply recloses_bare
  intro object
  rw [Clause.holds, Clause.holds,
    (recloses outcome outcome' firstCompiles secondCompiles).holds_close_iff]

/-- Frames that do not negate are looser around what is looser. -/
theorem loosens_inside
    {frames : List Frame}
    (positive : ∀ frame ∈ frames, frame.op ≠ .not)
    (loosens : OutcomesRelate registry (Loosens test) first second) :
    OutcomesRelate registry (Loosens test) (inside frames first) (inside frames second) := by
  induction frames generalizing first second with
  | nil =>
      exact loosens
  | cons frame outer inductionHypothesis =>
      rw [List.forall_mem_cons] at positive
      exact inductionHypothesis positive.2 (loosens_fill positive.1 loosens)

/-- Frames in which nothing that was shared is lost say the same around either tree. -/
theorem recloses_inside
    {frames : List Frame}
    (kept : KeepsShared registry frames first second)
    (recloses : OutcomesRelate registry (Recloses test) first second) :
    OutcomesRelate registry (Recloses test) (inside frames first) (inside frames second) := by
  induction frames generalizing first second with
  | nil =>
      exact recloses
  | cons frame outer inductionHypothesis =>
      apply inductionHypothesis kept.2
      by_cases negates : frame.op = .not
      · exact recloses_fill_of_not negates recloses
      · obtain ⟨loosens, widens⟩ := outcomesRelate_recloses_iff.mp recloses
        exact outcomesRelate_recloses_iff.mpr
          ⟨loosens_fill negates loosens, widens_fill negates kept.1 widens⟩

/-- A sibling outside all nested fields shares nothing with either tree. -/
theorem sharesAlike_of_bare
    {sibling : Sqon}
    {clause : Clause}
    (compiles : Compiles registry sibling (.bare clause)) :
    SharesAlike registry first second sibling := by
  intro outcome pending pending' siblingCompiles _ _
  obtain rfl := siblingCompiles.unique compiles
  rfl

end Relations

end FacetSearch.Sqon
