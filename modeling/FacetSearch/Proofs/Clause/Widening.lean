import FacetSearch.Proofs.Clause.SharedObjects

namespace FacetSearch

/-!
# Wider conjuncts

A conjunct may give way to a wider one: one that goes at least as deep, and
that holds below every object of which the first one holds.  Conjuncts that
hold together still do when some of them give way to wider ones and others are
left out, as long as the wider ones share no object that they did not share
before.  Without that condition they may not: two conjuncts that were each
satisfied by an object of its own would come to be about the same object.
-/

variable {α : Type} {test : ObjectTest α}

/-- Only the objects chosen for the beginnings of a chain matter to going down the chain. -/
theorem follows_congr
    {choice other : List String → DocumentTree α}
    {chain : List String}
    (agree : ∀ beginning, beginning <+: chain → choice beginning = other beginning) :
    Follows choice chain ↔ Follows other chain := by
  apply forall_congr'
  intro parent
  apply forall_congr'
  intro path
  apply imp_congr_right
  intro begins
  have parentBegins : parent <+: chain := (List.prefix_append parent [path]).trans begins
  simp only [agree _ begins, agree _ parentBegins]

theorem HoldTogether.mono
    {items others : List Pending}
    {object : DocumentTree α}
    (together : HoldTogether test items object)
    (among : ∀ item ∈ others, item ∈ items) :
    HoldTogether test others object := by
  obtain ⟨choice, start, satisfied⟩ := together
  exact ⟨choice, start, fun item member => satisfied item (among item member)⟩

/-- One item holds together when it does in scopes of its own. -/
theorem holdTogether_singleton
    {item : Pending}
    {object : DocumentTree α} :
    HoldTogether test [item] object ↔ item.close.holds test object = true := by
  have bareHolds :
      ∀ descendant : DocumentTree α,
        HoldTogether test ([item].map (Pending.below item.chain.length)) descendant ↔
          item.clause.holds test descendant = true := by
    intro descendant
    constructor
    · rintro ⟨choice, rfl, satisfied⟩
      simpa [Pending.below] using (satisfied _ (List.mem_singleton_self _)).2
    · intro holdsThere
      refine ⟨fun _ => descendant, rfl, ?_⟩
      simpa [Pending.below, Follows, everyStep_nil] using holdsThere
  have shared : ∀ other ∈ [item], item.chain <+: other.chain := by
    simp
  rw [holdTogether_iff_descendant (List.cons_ne_nil item []) shared, Pending.close,
    Clause.holds_within]
  simp only [bareHolds]

/--
An item gives way to a wider one: it goes at least as deep, and holds below
every object of which the first one holds.
-/
def Widens
    (test : ObjectTest α)
    (item wider : Pending) :
    Prop :=
  item.chain <+: wider.chain ∧
    ∀ object, item.clause.holds test object = true →
      (wider.below item.chain.length).close.holds test object = true

/-- Of two items and what they give way to, the latter share no object that the former do not. -/
def ShareNoMore (first second : Pending × Pending) : Prop :=
  ∀ chain, chain <+: first.2.chain → chain <+: second.2.chain →
    chain <+: first.1.chain ∧ chain <+: second.1.chain

namespace Widens

variable {item wider : Pending}

theorem refl
    (item : Pending) :
    Widens test item item := by
  refine ⟨List.prefix_refl _, ?_⟩
  intro object holdsHere
  simpa [Pending.below, Pending.close, Clause.within] using holdsHere

/-- A wider item holds in its own scopes where the first one does. -/
theorem holds_close
    (widens : Widens test item wider)
    {object : DocumentTree α}
    (holdsHere : item.close.holds test object = true) :
    wider.close.holds test object = true := by
  rw [Pending.close_eq_within_below widens.1, Clause.holds_within]
  rw [Pending.close, Clause.holds_within] at holdsHere
  obtain ⟨descendant, reached, holdsThere⟩ := holdsHere
  exact ⟨descendant, reached, widens.2 descendant holdsThere⟩

/-- Items give way below a common chain as they do above it. -/
theorem below
    (widens : Widens test item wider)
    {common : List String}
    (shared : common <+: item.chain) :
    Widens test (item.below common.length) (wider.below common.length) := by
  refine ⟨widens.1.drop common.length, ?_⟩
  intro object holdsHere
  rw [Pending.below_below, Pending.length_add_length_below shared]
  exact widens.2 object holdsHere

end Widens

theorem ShareNoMore.symm
    {first second : Pending × Pending}
    (noMore : ShareNoMore first second) :
    ShareNoMore second first :=
  fun chain beginsSecond beginsFirst => (noMore chain beginsFirst beginsSecond).symm

/-- Sharing no more objects than before does not depend on where one looks from. -/
theorem ShareNoMore.below
    {first second : Pending × Pending}
    (noMore : ShareNoMore first second)
    {common : List String}
    (shared : common <+: first.1.chain ∧ common <+: second.1.chain)
    (sharedAfter : common <+: first.2.chain ∧ common <+: second.2.chain) :
    ShareNoMore
      (first.map (Pending.below common.length) (Pending.below common.length))
      (second.map (Pending.below common.length) (Pending.below common.length)) := by
  have prefix_below_iff :
      ∀ {item : Pending}, common <+: item.chain →
        ∀ {chain}, chain <+: (item.below common.length).chain ↔ common ++ chain <+: item.chain := by
    rintro item ⟨rest, split⟩ chain
    simp [Pending.below, ← split]
  intro chain firstBegins secondBegins
  rw [Prod.map_snd, prefix_below_iff sharedAfter.1] at firstBegins
  rw [Prod.map_snd, prefix_below_iff sharedAfter.2] at secondBegins
  rw [Prod.map_fst, Prod.map_fst, prefix_below_iff shared.1, prefix_below_iff shared.2]
  exact noMore (common ++ chain) firstBegins secondBegins

/--
One of the items that hold together may give way to a wider one, if that
shares no object with the others that the item did not share.
-/
theorem holdTogether_replace
    {item wider : Pending}
    {others : List Pending}
    {object : DocumentTree α}
    (widens : Widens test item wider)
    (apart :
      ∀ other ∈ others, ∀ chain,
        chain <+: wider.chain → chain <+: other.chain → chain <+: item.chain)
    (together : HoldTogether test (item :: others) object) :
    HoldTogether test (wider :: others) object := by
  obtain ⟨choice, start, satisfied⟩ := together
  rw [List.forall_mem_cons] at satisfied
  obtain ⟨⟨itemFollows, itemHolds⟩, othersSatisfied⟩ := satisfied
  obtain ⟨inside, insideStart, insideSatisfied⟩ :=
    holdTogether_singleton.mpr (widens.2 _ itemHolds)
  obtain ⟨insideFollows, insideHolds⟩ := insideSatisfied _ (List.mem_singleton_self _)
  obtain ⟨⟨rest, split⟩, -⟩ := widens
  rw [Pending.chain_below_of_append split] at insideFollows insideHolds
  -- The objects beyond the end of the item are chosen anew; nobody else has a say in them.
  let extended : List String → DocumentTree α :=
    fun chain =>
      if chain <+: wider.chain ∧ ¬chain <+: item.chain then inside (chain.drop item.chain.length)
      else choice chain
  have onItem : ∀ beginning, beginning <+: item.chain → extended beginning = choice beginning := by
    intro beginning begins
    simp [extended, begins]
  have onOthers :
      ∀ other ∈ others, ∀ beginning, beginning <+: other.chain →
        extended beginning = choice beginning := by
    intro other member beginning begins
    by_cases inWider : beginning <+: wider.chain
    · exact onItem beginning (apart other member beginning inWider begins)
    · simp [extended, inWider]
  have onRest :
      ∀ beginning, beginning <+: rest →
        extended (item.chain ++ beginning) = inside beginning := by
    intro beginning begins
    by_cases atEnd : beginning = []
    · subst beginning
      rw [List.append_nil, onItem _ (List.prefix_refl _), insideStart]
    · have beyond : ¬item.chain ++ beginning <+: item.chain := by
        intro stays
        have shorter := stays.length_le
        rw [List.length_append] at shorter
        exact atEnd (List.length_eq_zero_iff.mp (by omega))
      simp [extended, ← split, begins, beyond]
  refine ⟨extended, (onItem [] List.nil_prefix).trans start, ?_⟩
  rw [List.forall_mem_cons]
  constructor
  · rw [← split]
    refine ⟨everyStep_append.mpr ⟨(follows_congr onItem).mpr itemFollows, ?_⟩, ?_⟩
    · have restFollows := (follows_congr onRest).mpr insideFollows
      simpa only [Follows, List.append_assoc] using restFollows
    · rw [onRest rest (List.prefix_refl _)]
      exact insideHolds
  · intro other member
    obtain ⟨otherFollows, otherHolds⟩ := othersSatisfied other member
    rw [follows_congr (onOthers other member),
      onOthers other member other.chain (List.prefix_refl _)]
    exact ⟨otherFollows, otherHolds⟩

/--
Items that hold together may all give way to wider ones, if these share no
object that the items did not share.
-/
theorem holdTogether_replace_all
    {pairs : List (Pending × Pending)}
    {finished : List Pending}
    {object : DocumentTree α}
    (widens : ∀ pair ∈ pairs, Widens test pair.1 pair.2)
    (apart : pairs.Pairwise ShareNoMore)
    (apartFromFinished :
      ∀ pair ∈ pairs, ∀ other ∈ finished, ∀ chain,
        chain <+: pair.2.chain → chain <+: other.chain → chain <+: pair.1.chain)
    (together : HoldTogether test (pairs.map Prod.fst ++ finished) object) :
    HoldTogether test (pairs.map Prod.snd ++ finished) object := by
  -- One pair after the other is finished; the wider item of a finished pair stands beside the rest.
  induction pairs generalizing finished with
  | nil =>
      exact together
  | cons pair rest inductionHypothesis =>
      rw [List.forall_mem_cons] at widens apartFromFinished
      obtain ⟨pairApart, restApart⟩ := List.pairwise_cons.mp apart
      have replaced :
          HoldTogether test (pair.2 :: (rest.map Prod.fst ++ finished)) object := by
        refine holdTogether_replace widens.1 ?_ together
        intro other member chain beginsWider beginsOther
        rcases List.mem_append.mp member with inRest | inFinished
        · obtain ⟨later, laterMember, rfl⟩ := List.mem_map.mp inRest
          have beginsLater : chain <+: later.2.chain :=
            beginsOther.trans (widens.2 later laterMember).1
          exact (pairApart later laterMember chain beginsWider beginsLater).1
        · exact apartFromFinished.1 other inFinished chain beginsWider beginsOther
      have regrouped :
          HoldTogether test (rest.map Prod.fst ++ pair.2 :: finished) object :=
        replaced.mono fun item member => by
          simpa [or_left_comm] using member
      have replacedAll :
          HoldTogether test (rest.map Prod.snd ++ pair.2 :: finished) object := by
        refine inductionHypothesis widens.2 restApart ?_ regrouped
        intro later laterMember
        rw [List.forall_mem_cons]
        refine ⟨?_, apartFromFinished.2 later laterMember⟩
        intro chain beginsWider beginsPair
        exact (pairApart later laterMember chain beginsPair beginsWider).2
      exact replacedAll.mono fun item member => by
        simpa [or_left_comm] using member

/--
A joined conjunction gives way to the conjunction of what some of its items
give way to, if these share no object that the items did not share.
-/
theorem widens_joinBelow_all
    {items : List Pending}
    {pairs : List (Pending × Pending)}
    {common commonAfter : List String}
    (nonempty : pairs ≠ [])
    (among : ∀ pair ∈ pairs, pair.1 ∈ items)
    (widens : ∀ pair ∈ pairs, Widens test pair.1 pair.2)
    (apart : pairs.Pairwise ShareNoMore)
    (shared : ∀ item ∈ items, common <+: item.chain)
    (sharedAfter : ∀ pair ∈ pairs, commonAfter <+: pair.2.chain)
    (deeper : common <+: commonAfter) :
    Widens test (.joinBelow .all common items)
      (.joinBelow .all commonAfter (pairs.map Prod.snd)) := by
  refine ⟨deeper, ?_⟩
  intro object holdsHere
  let pairsBelow : List (Pending × Pending) :=
    pairs.map (Prod.map (Pending.below common.length) (Pending.below common.length))
  have together : HoldTogether test (pairsBelow.map Prod.fst ++ []) object := by
    refine (holds_joinBelow_all.mp holdsHere).mono ?_
    intro item member
    obtain ⟨pair, pairMember, rfl⟩ : ∃ pair ∈ pairs, pair.1.below common.length = item := by
      simpa [pairsBelow] using member
    exact List.mem_map_of_mem (among pair pairMember)
  have widensBelow : ∀ pair ∈ pairsBelow, Widens test pair.1 pair.2 := by
    rw [List.forall_mem_map]
    intro pair member
    exact (widens pair member).below (shared pair.1 (among pair member))
  have apartBelow : pairsBelow.Pairwise ShareNoMore := by
    refine List.pairwise_map.mpr (apart.imp_of_mem ?_)
    intro first second firstMember secondMember noMore
    exact noMore.below
      ⟨shared _ (among _ firstMember), shared _ (among _ secondMember)⟩
      ⟨deeper.trans (sharedAfter _ firstMember), deeper.trans (sharedAfter _ secondMember)⟩
  have replaced : HoldTogether test (pairsBelow.map Prod.snd ++ []) object :=
    holdTogether_replace_all widensBelow apartBelow (by simp) together
  have nonemptyAfter : pairs.map Prod.snd ≠ [] := by
    simpa using nonempty
  refine (holds_joinBelow_all_within nonemptyAfter (List.forall_mem_map.mpr sharedAfter)
    deeper.length_le).mpr ?_
  rw [List.append_nil, List.map_map] at replaced
  rw [List.map_map]
  exact replaced

end FacetSearch
