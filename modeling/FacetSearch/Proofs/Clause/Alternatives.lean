import FacetSearch.Proofs.Clause.Connectives
import FacetSearch.Proofs.Clause.Forest

namespace FacetSearch

/-!
# Alternatives

A disjunction may share scopes between its members without changing what it
says: some object satisfies one of two clauses exactly when some object
satisfies the first or some object satisfies the second.  The disjunction of a
forest therefore holds when one of its items does, each inside scopes of its own.
-/

variable {α : Type} {test : ObjectTest α} {object : DocumentTree α}

/-- The scopes of an item are opened one after the other. -/
theorem Pending.close_cons
    {path : String}
    {rest : List String}
    {clause : Clause} :
    (Pending.mk (path :: rest) clause).close = .nested path (Pending.mk rest clause).close :=
  rfl

namespace Scope

/-- Some clause of a level holds of an object, where groups are joined by disjunction. -/
def SomeHolds
    (test : ObjectTest α)
    (forest : List Scope)
    (object : DocumentTree α) :
    Prop :=
  ∃ clause ∈ toClauses .any forest, clause.holds test object = true

theorem not_someHolds_nil : ¬ SomeHolds test [] object := by
  simp [SomeHolds, toClauses]

theorem someHolds_cons
    {scope : Scope}
    {rest : List Scope} :
    SomeHolds test (scope :: rest) object ↔
      (scope.toClause .any).holds test object = true ∨ SomeHolds test rest object := by
  simp [SomeHolds, toClauses]

theorem someHolds_append
    {first second : List Scope} :
    SomeHolds test (first ++ second) object ↔
      SomeHolds test first object ∨ SomeHolds test second object := by
  induction first with
  | nil =>
      simp [not_someHolds_nil]
  | cons scope rest inductionHypothesis =>
      simp only [List.cons_append, someHolds_cons, inductionHypothesis, or_assoc]

theorem toClauses_ne_nil
    {join : List Clause → Clause}
    {forest : List Scope}
    (filled : forest ≠ []) :
    toClauses join forest ≠ [] := by
  cases forest with
  | nil =>
      exact (filled rfl).elim
  | cons scope rest =>
      simp [toClauses]

/-- A group that is not empty holds when one of its members does of some child. -/
theorem holds_group_any
    {path : String}
    {members : List Scope}
    (filled : members ≠ []) :
    ((Scope.group path members).toClause .any).holds test object = true ↔
      ∃ child ∈ object.children path, SomeHolds test members child := by
  rw [toClause, Clause.holds, List.any_eq_true]
  simp only [Clause.holds_any (toClauses_ne_nil filled), SomeHolds]

/-- A change of one group adds, for some child under its path, what it adds there. -/
theorem someHolds_updateGroup
    {path : String}
    {change : List Scope → List Scope}
    {added : DocumentTree α → Prop}
    {forest : List Scope}
    (filled : ∀ members, change members ≠ [])
    (changed :
      ∀ members child,
        AreTidy members →
        (SomeHolds test (change members) child ↔ SomeHolds test members child ∨ added child))
    (tidy : AreTidy forest) :
    SomeHolds test (updateGroup path change forest) object ↔
      SomeHolds test forest object ∨ ∃ child ∈ object.children path, added child := by
  induction forest with
  | nil =>
      rw [updateGroup, someHolds_cons, holds_group_any (filled [])]
      simp [changed [] _ trivial, not_someHolds_nil]
  | cons scope rest inductionHypothesis =>
      obtain ⟨scopeTidy, -, restTidy⟩ := tidy
      cases scope with
      | bare clause =>
          simp only [updateGroup, someHolds_cons, inductionHypothesis restTidy, or_assoc]
      | group present members =>
          by_cases same : present = path
          · subst present
            obtain ⟨inhabited, membersTidy⟩ := scopeTidy
            simp only [updateGroup, ↓reduceIte, someHolds_cons, holds_group_any inhabited,
              holds_group_any (filled members), changed members _ membersTidy, and_or_left,
              exists_or]
            exact or_right_comm
          · simp only [updateGroup, same, ↓reduceIte, someHolds_cons,
              inductionHypothesis restTidy, or_assoc]

/-- Entering a clause adds the clause inside scopes of its own. -/
theorem someHolds_insert
    {clause : Clause}
    {chain : List String}
    {forest : List Scope}
    (tidy : AreTidy forest) :
    SomeHolds test (insert clause chain forest) object ↔
      SomeHolds test forest object ∨ (Pending.mk chain clause).close.holds test object = true := by
  induction chain generalizing forest object with
  | nil =>
      rw [insert, someHolds_append, someHolds_cons]
      simp [not_someHolds_nil, toClause, Pending.close, Clause.within]
  | cons path rest inductionHypothesis =>
      rw [insert,
        someHolds_updateGroup (fun _ => insert_ne_nil)
          (fun _ _ membersTidy => inductionHypothesis membersTidy) tidy,
        Pending.close_cons, Clause.holds, List.any_eq_true]

/-- Some clause of a forest holds exactly when one of its items does in scopes of its own. -/
theorem someHolds_forest
    {items : List Pending} :
    SomeHolds test (forest items) object ↔ ∃ item ∈ items, item.close.holds test object = true := by
  suffices entered :
      ∀ start, AreTidy start →
        (SomeHolds test
            (items.foldl (fun forest item => insert item.clause item.chain forest) start) object ↔
          SomeHolds test start object ∨ ∃ item ∈ items, item.close.holds test object = true) by
    simpa [forest, not_someHolds_nil] using entered [] trivial
  induction items with
  | nil =>
      simp
  | cons item rest inductionHypothesis =>
      intro start tidy
      rw [List.foldl_cons, inductionHypothesis _ (areTidy_insert tidy), someHolds_insert tidy]
      simp [or_assoc]

theorem forest_ne_nil
    {items : List Pending}
    (nonempty : items ≠ []) :
    forest items ≠ [] := by
  obtain ⟨earlier, last, rfl⟩ := List.eq_nil_or_concat' items |>.resolve_left nonempty
  rw [forest, List.foldl_append]
  exact insert_ne_nil

end Scope

/-- A joined disjunction holds when one of its items does in what is left of its own scopes. -/
theorem holds_joinBelow_any
    {common : List String}
    {items : List Pending}
    (nonempty : items ≠ []) :
    (Pending.joinBelow .any common items).clause.holds test object = true ↔
      ∃ item ∈ items, (item.below common.length).close.holds test object = true := by
  have forestFilled :
      Scope.forest (items.map (Pending.below common.length)) ≠ [] :=
    Scope.forest_ne_nil (by simpa using nonempty)
  rw [Pending.clause_joinBelow, Clause.holds_any (Scope.toClauses_ne_nil forestFilled)]
  refine Scope.someHolds_forest.trans ?_
  simp

/-- Inside what is left of the common chain, a joined disjunction holds when one item does. -/
theorem holds_joinBelow_any_within
    {common : List String}
    {items : List Pending}
    (nonempty : items ≠ [])
    (shared : ∀ item ∈ items, common <+: item.chain)
    {opened : Nat}
    (opens : opened ≤ common.length) :
    ((Pending.joinBelow .any common items).clause.within (common.drop opened)).holds
        test object = true ↔
      ∃ item ∈ items, (item.below opened).close.holds test object = true := by
  have closes :
      ∀ item ∈ items,
        (item.below opened).close =
          (item.below common.length).close.within (common.drop opened) := by
    intro item member
    have sharedBelow : common.drop opened <+: (item.below opened).chain :=
      (shared item member).drop opened
    rw [Pending.close_eq_within_below sharedBelow, Pending.below_below, List.length_drop,
      Nat.add_sub_cancel' opens]
  rw [Clause.holds_within]
  simp only [holds_joinBelow_any nonempty]
  constructor
  · rintro ⟨descendant, reached, item, member, holdsThere⟩
    refine ⟨item, member, ?_⟩
    rw [closes item member, Clause.holds_within]
    exact ⟨descendant, reached, holdsThere⟩
  · rintro ⟨item, member, holdsHere⟩
    rw [closes item member, Clause.holds_within] at holdsHere
    obtain ⟨descendant, reached, holdsThere⟩ := holdsHere
    exact ⟨descendant, reached, item, member, holdsThere⟩

/-- A joined and closed disjunction holds when one of its items does in scopes of its own. -/
theorem holds_close_joinBelow_any
    {common : List String}
    {items : List Pending}
    (nonempty : items ≠ [])
    (shared : ∀ item ∈ items, common <+: item.chain) :
    (Pending.joinBelow .any common items).close.holds test object = true ↔
      ∃ item ∈ items, item.close.holds test object = true := by
  refine (holds_joinBelow_any_within nonempty shared (Nat.zero_le _)).trans ?_
  simp

end FacetSearch
