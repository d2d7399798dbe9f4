import FacetSearch.Proofs.Clause.Alternatives
import FacetSearch.Proofs.Clause.Widening

namespace FacetSearch

/-!
# Looser items

An item may give way to a looser one: one that has opened some of the scopes
that the first one still leaves pending.  Looser items hold wherever the first
ones do, joined in any way, since an object that several items were about may
serve each of them on its own.  The way back is a matter of sharing: it is the
way to a wider item, and a conjunction goes it only if that brings no objects
together.
-/

variable {α : Type} {test : ObjectTest α}

/--
An item gives way to a looser one: it is pending in no more scopes, and holds
of every object below which the first one holds.
-/
def Loosens
    (test : ObjectTest α)
    (item looser : Pending) :
    Prop :=
  looser.chain <+: item.chain ∧
    ∀ object, (item.below looser.chain.length).close.holds test object = true →
      looser.clause.holds test object = true

namespace Loosens

variable {item looser : Pending}

theorem refl
    (item : Pending) :
    Loosens test item item := by
  refine ⟨List.prefix_refl _, ?_⟩
  intro object holdsHere
  simpa [Pending.below, Pending.close, Clause.within] using holdsHere

/-- Nothing is looser than what matches everything. -/
theorem matchAll
    (item : Pending) :
    Loosens test item (.bare .matchAll) := by
  refine ⟨List.nil_prefix, ?_⟩
  intro object _
  rw [Pending.bare, Clause.holds]

/-- A looser item holds in its own scopes where the first one does. -/
theorem holds_close
    (loosens : Loosens test item looser)
    {object : DocumentTree α}
    (holdsHere : item.close.holds test object = true) :
    looser.close.holds test object = true := by
  rw [Pending.close_eq_within_below loosens.1, Clause.holds_within] at holdsHere
  obtain ⟨descendant, reached, holdsThere⟩ := holdsHere
  rw [Pending.close, Clause.holds_within]
  exact ⟨descendant, reached, loosens.2 descendant holdsThere⟩

/-- Items give way below a common chain as they do above it. -/
theorem below
    (loosens : Loosens test item looser)
    {common : List String}
    (shared : common <+: looser.chain) :
    Loosens test (item.below common.length) (looser.below common.length) := by
  refine ⟨loosens.1.drop common.length, ?_⟩
  intro object holdsHere
  rw [Pending.below_below, Pending.length_add_length_below shared] at holdsHere
  exact loosens.2 object holdsHere

end Loosens

/-- Items that hold together may give way to looser ones, and be left out. -/
theorem HoldTogether.loosen
    {items loosers : List Pending}
    {object : DocumentTree α}
    (together : HoldTogether test items object)
    (loosen : ∀ looser ∈ loosers, ∃ item ∈ items, Loosens test item looser) :
    HoldTogether test loosers object := by
  obtain ⟨choice, start, satisfied⟩ := together
  refine ⟨choice, start, ?_⟩
  intro looser member
  obtain ⟨item, itemMember, ⟨rest, split⟩, holds⟩ := loosen looser member
  obtain ⟨follows, holdsThere⟩ := satisfied item itemMember
  rw [← split] at follows holdsThere
  obtain ⟨looserFollows, restFollows⟩ := everyStep_append.mp follows
  refine ⟨looserFollows, holds _ (holdTogether_singleton.mp ?_)⟩
  -- Beyond the end of the looser item, the objects are the ones that the first item has found.
  refine ⟨fun beginning => choice (looser.chain ++ beginning), by simp, ?_⟩
  rw [List.forall_mem_singleton, Pending.chain_below_of_append split]
  refine ⟨?_, holdsThere⟩
  simpa only [Follows, List.append_assoc] using restFollows

/-- An item gives way to a looser one, which gives way to the item again. -/
def Recloses
    (test : ObjectTest α)
    (item looser : Pending) :
    Prop :=
  Loosens test item looser ∧ Widens test looser item

theorem Recloses.holds_close_iff
    {item looser : Pending}
    (recloses : Recloses test item looser)
    {object : DocumentTree α} :
    looser.close.holds test object = item.close.holds test object :=
  Bool.eq_iff_iff.mpr ⟨recloses.2.holds_close, recloses.1.holds_close⟩

/-- Bare clauses that hold of the same objects give way to each other. -/
theorem recloses_bare
    {clause other : Clause}
    (alike : ∀ object : DocumentTree α, other.holds test object = clause.holds test object) :
    Recloses test (.bare clause) (.bare other) := by
  refine ⟨⟨List.prefix_refl _, ?_⟩, ⟨List.prefix_refl _, ?_⟩⟩
  · intro object holdsHere
    exact (alike object).trans holdsHere
  · intro object holdsHere
    exact (alike object).symm.trans holdsHere

section Joining

variable {items : List Pending} {common commonAfter : List String}

/-- A joined conjunction gives way to the conjunction of looser items. -/
theorem loosens_joinBelow_all
    {loosers : List Pending}
    (nonempty : items ≠ [])
    (loosen : ∀ looser ∈ loosers, ∃ item ∈ items, Loosens test item looser)
    (shared : ∀ item ∈ items, common <+: item.chain)
    (sharedAfter : ∀ looser ∈ loosers, commonAfter <+: looser.chain)
    (shallower : commonAfter <+: common) :
    Loosens test (.joinBelow .all common items) (.joinBelow .all commonAfter loosers) := by
  refine ⟨shallower, ?_⟩
  intro object holdsHere
  have together : HoldTogether test (items.map (Pending.below commonAfter.length)) object :=
    (holds_joinBelow_all_within nonempty shared shallower.length_le).mp holdsHere
  refine holds_joinBelow_all.mpr (together.loosen ?_)
  rw [List.forall_mem_map]
  intro looser member
  obtain ⟨item, itemMember, loosens⟩ := loosen looser member
  exact ⟨_, List.mem_map_of_mem itemMember, loosens.below (sharedAfter looser member)⟩

/-- A joined disjunction gives way to the disjunction of looser items. -/
theorem loosens_joinBelow_any
    {loosers : List Pending}
    (nonempty : items ≠ [])
    (loosen : ∀ item ∈ items, ∃ looser ∈ loosers, Loosens test item looser)
    (shared : ∀ item ∈ items, common <+: item.chain)
    (sharedAfter : ∀ looser ∈ loosers, commonAfter <+: looser.chain)
    (shallower : commonAfter <+: common) :
    Loosens test (.joinBelow .any common items) (.joinBelow .any commonAfter loosers) := by
  refine ⟨shallower, ?_⟩
  intro object holdsHere
  obtain ⟨item, member, itemHolds⟩ :=
    (holds_joinBelow_any_within nonempty shared shallower.length_le).mp holdsHere
  obtain ⟨looser, looserMember, loosens⟩ := loosen item member
  exact (holds_joinBelow_any (List.ne_nil_of_mem looserMember)).mpr
    ⟨looser, looserMember, (loosens.below (sharedAfter looser looserMember)).holds_close itemHolds⟩

/-- A joined disjunction gives way to the disjunction of wider items. -/
theorem widens_joinBelow_any
    {widers : List Pending}
    (nonempty : items ≠ [])
    (widen : ∀ item ∈ items, ∃ wider ∈ widers, Widens test item wider)
    (shared : ∀ item ∈ items, common <+: item.chain)
    (sharedAfter : ∀ wider ∈ widers, commonAfter <+: wider.chain)
    (deeper : common <+: commonAfter) :
    Widens test (.joinBelow .any common items) (.joinBelow .any commonAfter widers) := by
  refine ⟨deeper, ?_⟩
  intro object holdsHere
  obtain ⟨item, member, itemHolds⟩ := (holds_joinBelow_any nonempty).mp holdsHere
  obtain ⟨wider, widerMember, widens⟩ := widen item member
  exact (holds_joinBelow_any_within (List.ne_nil_of_mem widerMember) sharedAfter
      deeper.length_le).mpr
    ⟨wider, widerMember, (widens.below (shared item member)).holds_close itemHolds⟩

end Joining

end FacetSearch
