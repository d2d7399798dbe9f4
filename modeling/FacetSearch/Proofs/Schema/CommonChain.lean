import FacetSearch.Schema.Registry
import Mathlib.Data.List.Infix

namespace FacetSearch

/-!
# Common chains

The common chain of some chains is the longest chain that all of them start
with.  It is characterised by its beginnings: those are exactly the chains
that begin every member.  So it depends on nothing but what begins every
member: neither on order and repetitions, nor on whether some members were
joined before.
-/

/-- The beginnings of the common chain of two chains are their shared beginnings. -/
theorem isPrefix_commonChainOfTwo_iff
    {beginning first second : List String} :
    beginning <+: commonChainOfTwo first second ↔
      beginning <+: first ∧ beginning <+: second := by
  induction first generalizing beginning second with
  | nil =>
      simp only [commonChainOfTwo, List.prefix_nil, iff_self_and]
      rintro rfl
      exact List.nil_prefix
  | cons path rest inductionHypothesis =>
      cases second with
      | nil =>
          simp only [commonChainOfTwo, List.prefix_nil, iff_and_self]
          rintro rfl
          exact List.nil_prefix
      | cons path' rest' =>
          cases beginning with
          | nil =>
              simp
          | cons entry beginning =>
              by_cases same : path = path'
              · subst path'
                simp only [commonChainOfTwo, ↓reduceIte, List.cons_prefix_cons,
                  inductionHypothesis]
                tauto
              · simp only [commonChainOfTwo, same, ↓reduceIte, List.prefix_nil,
                  reduceCtorEq, List.cons_prefix_cons, false_iff, not_and]
                rintro ⟨rfl, -⟩ rfl
                exact (same rfl).elim

theorem isPrefix_foldl_commonChainOfTwo_iff
    {beginning first : List String}
    {chains : List (List String)} :
    beginning <+: chains.foldl commonChainOfTwo first ↔
      beginning <+: first ∧ ∀ chain ∈ chains, beginning <+: chain := by
  induction chains generalizing first with
  | nil =>
      simp
  | cons chain rest inductionHypothesis =>
      simp only [List.foldl_cons, inductionHypothesis, isPrefix_commonChainOfTwo_iff,
        List.forall_mem_cons, and_assoc]

/-- The beginnings of the common chain of some chains are the beginnings of all of them. -/
theorem isPrefix_commonChain_iff
    {beginning : List String}
    {chains : List (List String)}
    (nonempty : chains ≠ []) :
    beginning <+: commonChain chains ↔ ∀ chain ∈ chains, beginning <+: chain := by
  cases chains with
  | nil =>
      exact (nonempty rfl).elim
  | cons first rest =>
      simp only [commonChain, isPrefix_foldl_commonChainOfTwo_iff, List.forall_mem_cons]

/-- The common chain begins every chain that it is taken of. -/
theorem commonChain_isPrefix
    {chain : List String}
    {chains : List (List String)}
    (member : chain ∈ chains) :
    commonChain chains <+: chain :=
  (isPrefix_commonChain_iff (List.ne_nil_of_mem member)).mp (List.prefix_refl _) chain member

/-- Chains of which the same lists begin every one have the same common chain. -/
theorem commonChain_congr
    {chains others : List (List String)}
    (nonempty : chains ≠ [])
    (othersNonempty : others ≠ [])
    (alike :
      ∀ beginning,
        (∀ chain ∈ others, beginning <+: chain) ↔ ∀ chain ∈ chains, beginning <+: chain) :
    commonChain others = commonChain chains := by
  have sameBeginnings :
      ∀ beginning, beginning <+: commonChain others ↔ beginning <+: commonChain chains := by
    intro beginning
    rw [isPrefix_commonChain_iff othersNonempty, isPrefix_commonChain_iff nonempty]
    exact alike beginning
  have beginsCommon : commonChain others <+: commonChain chains :=
    (sameBeginnings _).mp (List.prefix_refl _)
  have commonBegins : commonChain chains <+: commonChain others :=
    (sameBeginnings _).mpr (List.prefix_refl _)
  exact beginsCommon.eq_of_length_le commonBegins.length_le

/-- Order and repetitions are no matter to the common chain. -/
theorem commonChain_eq_of_sameMembers
    {chains others : List (List String)}
    (nonempty : chains ≠ [])
    (sameMembers : ∀ chain, chain ∈ others ↔ chain ∈ chains) :
    commonChain others = commonChain chains := by
  have othersNonempty : others ≠ [] := by
    obtain ⟨chain, member⟩ := List.exists_mem_of_ne_nil chains nonempty
    exact List.ne_nil_of_mem ((sameMembers chain).mpr member)
  apply commonChain_congr nonempty othersNonempty
  intro beginning
  simp only [sameMembers]

/-- Chains can be joined before the others are. -/
theorem commonChain_commonChain_cons
    {group others : List (List String)}
    (nonempty : group ≠ []) :
    commonChain (commonChain group :: others) = commonChain (group ++ others) := by
  apply commonChain_congr (List.append_ne_nil_of_left_ne_nil nonempty others)
    (List.cons_ne_nil _ _)
  intro beginning
  rw [List.forall_mem_cons, List.forall_mem_append, isPrefix_commonChain_iff nonempty]

/--
The common chain of no chains is empty.  That of some chains begins each of
them, and whatever begins each of them begins it.  Neither their order nor
their repetitions change it, and neither does putting their own common chain in
the place of some of them.
-/
theorem commonChain_isLongest :
    commonChain [] = [] ∧
      ∀ chains, chains ≠ [] →
        (∀ chain ∈ chains, commonChain chains <+: chain) ∧
          (∀ beginning,
            (∀ chain ∈ chains, beginning <+: chain) → beginning <+: commonChain chains) ∧
          (∀ others, (∀ chain, chain ∈ others ↔ chain ∈ chains) →
            commonChain others = commonChain chains) ∧
          ∀ group rest replaced,
            group ≠ [] → chains.Perm (group ++ rest) →
              replaced.Perm (commonChain group :: rest) →
                commonChain replaced = commonChain chains := by
  refine ⟨rfl, ?_⟩
  intro chains nonempty
  refine ⟨fun chain => commonChain_isPrefix, ?_, ?_, ?_⟩
  · intro beginning beginsEach
    exact (isPrefix_commonChain_iff nonempty).mpr beginsEach
  · intro others sameMembers
    exact commonChain_eq_of_sameMembers nonempty sameMembers
  · intro group rest replaced groupNonempty grouped isReplaced
    calc
      commonChain replaced = commonChain (commonChain group :: rest) :=
        commonChain_eq_of_sameMembers (List.cons_ne_nil _ _) fun _ => isReplaced.mem_iff
      _ = commonChain (group ++ rest) := commonChain_commonChain_cons groupNonempty
      _ = commonChain chains :=
        commonChain_eq_of_sameMembers nonempty fun _ => grouped.symm.mem_iff

/-- The chains of a diagnosis and of a drug against it. -/
def diagnosisChains : List (List String) :=
  [["donors", "donors.diagnoses"], ["donors", "donors.diagnoses", "donors.diagnoses.drugs"]]

/-- The chains of a diagnosis, of a sample, and of a drug, all of them of donors. -/
def donorChains : List (List String) :=
  [["donors", "donors.diagnoses"],
    ["donors", "donors.samples"],
    ["donors", "donors.diagnoses", "donors.diagnoses.drugs"]]

/-- A drug shares more with the diagnosis than with the sample, which it shares the donors with. -/
theorem commonChain_of_donorChains :
    commonChain diagnosisChains = ["donors", "donors.diagnoses"] ∧
      commonChain donorChains = ["donors"] ∧
      commonChain (donorChains.reverse ++ donorChains) = ["donors"] ∧
      commonChain [["donors", "donors.samples"], commonChain diagnosisChains] = ["donors"] := by
  have nonempty : donorChains ≠ [] := List.cons_ne_nil _ _
  obtain ⟨-, -, forgetsOrder, groups⟩ := commonChain_isLongest.2 donorChains nonempty
  have common : commonChain donorChains = ["donors"] := by
    decide
  refine ⟨by decide, common, ?_, ?_⟩
  · rw [forgetsOrder _ (by simp), common]
  · have grouped : donorChains.Perm (diagnosisChains ++ [["donors", "donors.samples"]]) :=
      .cons _ (.swap _ _ _)
    rw [groups diagnosisChains _ _ (List.cons_ne_nil _ _) grouped (.swap _ _ _), common]

end FacetSearch
