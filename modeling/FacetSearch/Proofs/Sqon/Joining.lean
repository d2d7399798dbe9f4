import FacetSearch.Proofs.Clause.Loosening
import FacetSearch.Proofs.Sqon.Outcome

namespace FacetSearch.Sqon

/-!
# Joined siblings

Siblings are joined at the end of their own common chain.  So the join of some
items gives way to the join of others as soon as the items do, except that a
conjunction gives way to a wider one only if this brings no objects together.
-/

open Compiler

/-- Joined with nothing else, a child stays as it is. -/
theorem joinSiblings_singleton
    {join : List Clause → Clause}
    (alone : ∀ clause, join [clause] = clause)
    (child : Pending) :
    joinSiblings join [child] = child := by
  have onlyScope :
      Scope.forest ([child].map (Pending.below child.chain.length)) = [.bare child.clause] := by
    simp [Scope.forest, Pending.below, Scope.insert]
  have joined : (joinSiblings join [child]).clause = child.clause := by
    rw [joinSiblings, Pending.clause_joinBelow]
    exact (congrArg (fun forest => join (Scope.toClauses join forest)) onlyScope).trans
      (alone child.clause)
  exact congrArg (Pending.mk child.chain) joined

/-- The common chain of some items is no longer than that of items that they begin. -/
theorem commonChain_siblings_mono
    {items others : List Pending}
    (nonempty : items ≠ [])
    (begins : ∀ item ∈ items, ∃ other ∈ others, other.chain <+: item.chain) :
    commonChain (others.map Pending.chain) <+: commonChain (items.map Pending.chain) := by
  rw [isPrefix_commonChain_iff (by simpa using nonempty), List.forall_mem_map]
  intro item member
  obtain ⟨other, otherMember, begin⟩ := begins item member
  exact (commonChain_siblings_isPrefix other otherMember).trans begin

section Combinations

variable {children : List Pending} {pending : Pending}

theorem Compiler.Combination.eq_of_and
    (combination : Combination .and children pending)
    (nonempty : children ≠ []) :
    pending = joinSiblings .all children := by
  cases combination with
  | emptyAnd =>
      exact (nonempty rfl).elim
  | conjunction =>
      rfl

theorem Compiler.Combination.eq_of_or
    (combination : Combination .or children pending)
    (nonempty : children ≠ []) :
    pending = joinSiblings .any children := by
  cases combination with
  | emptyOr =>
      exact (nonempty rfl).elim
  | disjunction =>
      rfl

theorem Compiler.Combination.eq_of_not
    (combination : Combination .not children pending) :
    ∃ child, children = [child] ∧ pending = Compiler.negation child := by
  cases combination with
  | negation =>
      exact ⟨_, rfl, rfl⟩

end Combinations

section Alone

variable {registry : Registry} {op : Combinator} {child : Pending} {pending : Pending}

/-- A child without siblings stays as it is, unless it is negated. -/
theorem combination_singleton_iff
    (positive : op ≠ .not) :
    Combination op [child] pending ↔ pending = child := by
  have nonempty : [child] ≠ [] := List.cons_ne_nil child []
  constructor
  · intro combination
    cases op with
    | not =>
        exact (positive rfl).elim
    | and =>
        exact (combination.eq_of_and nonempty).trans
          (joinSiblings_singleton Clause.all_singleton child)
    | or =>
        exact (combination.eq_of_or nonempty).trans
          (joinSiblings_singleton Clause.any_singleton child)
  · rintro rfl
    cases op with
    | not =>
        exact (positive rfl).elim
    | and =>
        have combination : Combination .and [pending] _ := .conjunction nonempty
        rwa [joinSiblings_singleton Clause.all_singleton] at combination
    | or =>
        have combination : Combination .or [pending] _ := .disjunction nonempty
        rwa [joinSiblings_singleton Clause.any_singleton] at combination

/-- A combinator of one child compiles to a combination of what the child compiles to. -/
theorem compiles_singleton_iff
    {sqon : Sqon} :
    Compiles registry (.combine op [sqon]) pending ↔
      ∃ child, Compiles registry sqon child ∧ Combination op [child] pending := by
  rw [compiles_combine_iff]
  simp [List.forall₂_cons_left_iff]

/-- An `and` or `or` of one child compiles to what the child compiles to. -/
theorem compiles_singleton_iff_of_positive
    (positive : op ≠ .not)
    {sqon : Sqon} :
    Compiles registry (.combine op [sqon]) pending ↔ Compiles registry sqon pending := by
  simp [compiles_singleton_iff, combination_singleton_iff positive]

end Alone

section GivingWay

variable {α : Type} {test : ObjectTest α}

/--
Joined siblings give way to the join of what some of them give way to, if the
latter share no object that the former did not share.
-/
theorem widens_joinSiblings
    {children : List Pending}
    {survivors : List (Pending × Pending)}
    (nonempty : survivors ≠ [])
    (among : ∀ pair ∈ survivors, pair.1 ∈ children)
    (widens : ∀ pair ∈ survivors, Widens test pair.1 pair.2)
    (apart : survivors.Pairwise ShareNoMore) :
    Widens test (joinSiblings .all children)
      (joinSiblings .all (survivors.map Prod.snd)) := by
  have sharedAfter :
      ∀ pair ∈ survivors,
        commonChain ((survivors.map Prod.snd).map Pending.chain) <+: pair.2.chain :=
    fun pair member => commonChain_siblings_isPrefix pair.2 (List.mem_map_of_mem member)
  refine widens_joinBelow_all nonempty among widens apart commonChain_siblings_isPrefix
    sharedAfter ?_
  rw [isPrefix_commonChain_iff (by simpa using nonempty), List.map_map, List.forall_mem_map]
  intro pair member
  exact (commonChain_siblings_isPrefix pair.1 (among pair member)).trans (widens pair member).1

/-- Items that stay as they are share no more than before. -/
theorem pairwise_shareNoMore_itself
    (items : List Pending) :
    (items.map fun item => (item, item)).Pairwise ShareNoMore := by
  apply List.pairwise_map.mpr
  apply List.pairwise_of_forall
  intro first second chain beginsFirst beginsSecond
  exact ⟨beginsFirst, beginsSecond⟩

/-- A conjunction gives way to that of some of its items. -/
theorem widens_joinSiblings_among
    {children items : List Pending}
    (nonempty : items ≠ [])
    (among : ∀ item ∈ items, item ∈ children) :
    Widens test (joinSiblings .all children) (joinSiblings .all items) := by
  have widens :
      Widens test (joinSiblings .all children)
        (joinSiblings .all ((items.map fun item => (item, item)).map Prod.snd)) := by
    apply widens_joinSiblings (by simpa using nonempty)
    · simpa using among
    · simpa using fun item _ => Widens.refl item
    · exact pairwise_shareNoMore_itself items
  simpa [Function.comp_def] using widens

/-- A conjunction gives way to that with a wider item, if no other shares more with it. -/
theorem widens_joinSiblings_exchange
    {earlier later : List Pending}
    {item wider : Pending}
    (widens : Widens test item wider)
    (apart : ∀ other ∈ earlier ++ later, ShareNoMore (item, wider) (other, other)) :
    Widens test (joinSiblings .all (earlier ++ item :: later))
      (joinSiblings .all (earlier ++ wider :: later)) := by
  let pairs : List (Pending × Pending) :=
    (earlier.map fun other => (other, other)) ++
      (item, wider) :: later.map fun other => (other, other)
  have apartPairs : pairs.Pairwise ShareNoMore := by
    refine List.pairwise_append.mpr ⟨pairwise_shareNoMore_itself earlier,
      List.pairwise_cons.mpr ⟨?_, pairwise_shareNoMore_itself later⟩, ?_⟩
    · rw [List.forall_mem_map]
      exact fun other member => apart other (List.mem_append_right _ member)
    · rw [List.forall_mem_map]
      intro other member
      rw [List.forall_mem_cons, List.forall_mem_map]
      refine ⟨(apart other (List.mem_append_left _ member)).symm, ?_⟩
      exact fun _ _ chain beginsFirst beginsSecond => ⟨beginsFirst, beginsSecond⟩
  have widensAll :
      Widens test (joinSiblings .all (earlier ++ item :: later))
        (joinSiblings .all (pairs.map Prod.snd)) := by
    apply widens_joinSiblings (by simp [pairs])
    · simp +contextual [pairs, or_imp, forall_and]
    · simp [pairs, or_imp, forall_and, widens, Widens.refl]
    · exact apartPairs
  simpa [pairs, Function.comp_def] using widensAll

/-- A disjunction gives way to that of wider items. -/
theorem widens_joinSiblings_any
    {items widers : List Pending}
    (nonempty : items ≠ [])
    (widen : ∀ item ∈ items, ∃ wider ∈ widers, Widens test item wider)
    (back : ∀ wider ∈ widers, ∃ item ∈ items, Widens test item wider) :
    Widens test (joinSiblings .any items) (joinSiblings .any widers) := by
  have widersNonempty : widers ≠ [] := by
    obtain ⟨item, member⟩ := List.exists_mem_of_ne_nil items nonempty
    obtain ⟨wider, widerMember, -⟩ := widen item member
    exact List.ne_nil_of_mem widerMember
  refine widens_joinBelow_any nonempty widen commonChain_siblings_isPrefix
    commonChain_siblings_isPrefix (commonChain_siblings_mono widersNonempty ?_)
  intro wider member
  obtain ⟨item, itemMember, widens⟩ := back wider member
  exact ⟨item, itemMember, widens.1⟩

/-- The common chain of some items is no shorter than that of looser ones. -/
theorem commonChain_loosers_isPrefix
    {items loosers : List Pending}
    (nonempty : items ≠ [])
    (loosen : ∀ item ∈ items, ∃ looser ∈ loosers, Loosens test item looser) :
    commonChain (loosers.map Pending.chain) <+: commonChain (items.map Pending.chain) := by
  apply commonChain_siblings_mono nonempty
  intro item member
  obtain ⟨looser, looserMember, loosens⟩ := loosen item member
  exact ⟨looser, looserMember, loosens.1⟩

/-- A conjunction gives way to that of looser items. -/
theorem loosens_joinSiblings_all
    {items loosers : List Pending}
    (nonempty : items ≠ [])
    (loosen : ∀ item ∈ items, ∃ looser ∈ loosers, Loosens test item looser)
    (back : ∀ looser ∈ loosers, ∃ item ∈ items, Loosens test item looser) :
    Loosens test (joinSiblings .all items) (joinSiblings .all loosers) :=
  loosens_joinBelow_all nonempty back commonChain_siblings_isPrefix
    commonChain_siblings_isPrefix (commonChain_loosers_isPrefix nonempty loosen)

/-- A disjunction gives way to that of looser items. -/
theorem loosens_joinSiblings_any
    {items loosers : List Pending}
    (nonempty : items ≠ [])
    (loosen : ∀ item ∈ items, ∃ looser ∈ loosers, Loosens test item looser) :
    Loosens test (joinSiblings .any items) (joinSiblings .any loosers) :=
  loosens_joinBelow_any nonempty loosen commonChain_siblings_isPrefix
    commonChain_siblings_isPrefix (commonChain_loosers_isPrefix nonempty loosen)

end GivingWay

end FacetSearch.Sqon
