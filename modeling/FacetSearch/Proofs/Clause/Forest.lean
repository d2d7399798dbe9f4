import FacetSearch.Clause.Scope
import Mathlib.Data.List.Infix

namespace FacetSearch

/-!
# What a scope forest records

Entering a clause into a forest adds the clause at the end of its chain, and
groups for the paths of the chain that have none yet; nothing that was entered
before is lost or moved.  So a condition on clauses and on group paths, each
seen from the groups around it, holds throughout the forest of some items
exactly when it holds along the chain of every item.  Forests that are built
this way are tidy: no group is empty, and siblings have different paths.
-/

namespace Pending

/-- An item seen from the end of a chain of the given length that its own chain starts with. -/
def below
    (length : Nat)
    (item : Pending) :
    Pending :=
  { item with chain := item.chain.drop length }

@[simp] theorem clause_below
    (length : Nat)
    (item : Pending) :
    (item.below length).clause = item.clause :=
  rfl

@[simp] theorem below_zero : below 0 = id :=
  rfl

theorem below_below
    (first second : Nat)
    (item : Pending) :
    (item.below first).below second = item.below (first + second) := by
  simp [below, List.drop_drop]

/-- What is left of a chain behind one that it starts with. -/
theorem chain_below_of_append
    {beginning rest : List String}
    {item : Pending}
    (split : beginning ++ rest = item.chain) :
    (item.below beginning.length).chain = rest := by
  simp [below, ← split]

/-- A chain is as long as one that it starts with and what is left behind it. -/
theorem length_add_length_below
    {beginning : List String}
    {item : Pending}
    (shared : beginning <+: item.chain) :
    beginning.length + (item.below beginning.length).chain.length = item.chain.length := by
  obtain ⟨rest, split⟩ := shared
  rw [chain_below_of_append split, ← split, List.length_append]

/-- Items are joined at the end of their common chain. -/
theorem clause_joinBelow
    {join : List Clause → Clause}
    {common : List String}
    {items : List Pending} :
    (joinBelow join common items).clause =
      join (Scope.toClauses join (Scope.forest (items.map (below common.length)))) :=
  rfl

/-- Closing an item is closing it below a chain and then opening the scopes of that chain. -/
theorem close_eq_within_below
    {common : List String}
    {item : Pending}
    (shared : common <+: item.chain) :
    item.close = (item.below common.length).close.within common := by
  obtain ⟨rest, split⟩ := shared
  simp [close, below, Clause.within, ← split, List.foldr_append]

end Pending

/-- A condition holds of every path of a chain, given the paths before it. -/
def EveryStep
    (condition : List String → String → Prop)
    (chain : List String) :
    Prop :=
  ∀ parent path, parent ++ [path] <+: chain → condition parent path

section EveryStep

variable {condition : List String → String → Prop}

theorem everyStep_nil : EveryStep condition [] := by
  intro parent path begins
  simp at begins

/-- The steps of a chain are its first path and the steps behind it. -/
theorem everyStep_cons
    {path : String}
    {rest : List String} :
    EveryStep condition (path :: rest) ↔
      condition [] path ∧ EveryStep (fun parent => condition (path :: parent)) rest := by
  constructor
  · intro steps
    refine ⟨steps [] path (by simp), ?_⟩
    intro parent next begins
    exact steps (path :: parent) next (by simpa using begins)
  · rintro ⟨first, later⟩ parent next begins
    cases parent with
    | nil =>
        obtain rfl : next = path := by simpa using begins
        exact first
    | cons head parent =>
        rw [List.cons_append, List.cons_prefix_cons] at begins
        obtain ⟨rfl, begins⟩ := begins
        exact later parent next begins

/-- The steps of two chains in a row are those of the first and, from its end, of the second. -/
theorem everyStep_append
    {first second : List String} :
    EveryStep condition (first ++ second) ↔
      EveryStep condition first ∧
        EveryStep (fun parent => condition (first ++ parent)) second := by
  induction first generalizing condition with
  | nil =>
      simp [everyStep_nil]
  | cons path rest inductionHypothesis =>
      simp only [List.cons_append, everyStep_cons, inductionHypothesis, and_assoc]

end EveryStep

namespace Scope

/-- The path of a group. -/
def path? : Scope → Option String
  | .bare _ => none
  | .group path _ => some path

/-- The paths of the groups of a level. -/
def groupPaths (forest : List Scope) : List String :=
  forest.filterMap path?

section Upholding

mutual
/--
Every clause satisfies a condition together with the chain of groups around it,
and so does every group path.
-/
def Upholds
    (onClause : List String → Clause → Prop)
    (onStep : List String → String → Prop) :
    Scope → Prop
  | .bare clause => onClause [] clause
  | .group path members =>
      onStep [] path ∧
        AllUphold (fun chain => onClause (path :: chain)) (fun chain => onStep (path :: chain))
          members

/-- The conditions on clauses and on group paths hold throughout a level. -/
def AllUphold
    (onClause : List String → Clause → Prop)
    (onStep : List String → String → Prop) :
    List Scope → Prop
  | [] => True
  | scope :: rest => scope.Upholds onClause onStep ∧ AllUphold onClause onStep rest
end

variable
  {onClause : List String → Clause → Prop}
  {onStep : List String → String → Prop}

theorem allUphold_append
    {first second : List Scope} :
    AllUphold onClause onStep (first ++ second) ↔
      AllUphold onClause onStep first ∧ AllUphold onClause onStep second := by
  induction first with
  | nil =>
      simp [AllUphold]
  | cons scope rest inductionHypothesis =>
      simp only [List.cons_append, AllUphold, inductionHypothesis, and_assoc]

/-- A change of one group adds what it adds below the path, and the path itself. -/
theorem allUphold_updateGroup
    {path : String}
    {change : List Scope → List Scope}
    {added : Prop}
    {forest : List Scope}
    (changed :
      ∀ members,
        AllUphold (fun chain => onClause (path :: chain)) (fun chain => onStep (path :: chain))
            (change members) ↔
          AllUphold (fun chain => onClause (path :: chain)) (fun chain => onStep (path :: chain))
            members ∧ added) :
    AllUphold onClause onStep (updateGroup path change forest) ↔
      AllUphold onClause onStep forest ∧ onStep [] path ∧ added := by
  induction forest with
  | nil =>
      simp [updateGroup, AllUphold, Upholds, changed]
  | cons scope rest inductionHypothesis =>
      cases scope with
      | bare clause =>
          simp only [updateGroup, AllUphold, inductionHypothesis, and_assoc]
      | group other members =>
          by_cases same : other = path
          · subst other
            simp only [updateGroup, ↓reduceIte, AllUphold, Upholds, changed]
            tauto
          · simp only [updateGroup, same, ↓reduceIte, AllUphold, inductionHypothesis, and_assoc]

/-- Entering a clause adds the steps of its chain, and the clause at the end of it. -/
theorem allUphold_insert
    {clause : Clause}
    {chain : List String}
    {forest : List Scope} :
    AllUphold onClause onStep (insert clause chain forest) ↔
      AllUphold onClause onStep forest ∧ EveryStep onStep chain ∧ onClause chain clause := by
  induction chain generalizing onClause onStep forest with
  | nil =>
      simp [insert, allUphold_append, AllUphold, Upholds, everyStep_nil]
  | cons path rest inductionHypothesis =>
      rw [insert, allUphold_updateGroup (fun members => inductionHypothesis),
        everyStep_cons, and_assoc]

theorem allUphold_foldl_insert
    {items : List Pending}
    {start : List Scope} :
    AllUphold onClause onStep
        (items.foldl (fun forest item => insert item.clause item.chain forest) start) ↔
      AllUphold onClause onStep start ∧
        ∀ item ∈ items, EveryStep onStep item.chain ∧ onClause item.chain item.clause := by
  induction items generalizing start with
  | nil =>
      simp
  | cons item rest inductionHypothesis =>
      simp only [List.foldl_cons, inductionHypothesis, allUphold_insert, List.forall_mem_cons,
        and_assoc]

/-- Conditions hold throughout a forest when they hold along the chain of every item. -/
theorem allUphold_forest
    {items : List Pending} :
    AllUphold onClause onStep (forest items) ↔
      ∀ item ∈ items, EveryStep onStep item.chain ∧ onClause item.chain item.clause := by
  rw [forest, allUphold_foldl_insert]
  simp [AllUphold]

end Upholding

section Closing

variable
  {join : List Clause → Clause}
  {onClause : List String → Clause → Prop}
  {onStep : List String → String → Prop}

mutual
/--
What joins and scopes keep, the joined clause of a scope satisfies as soon as
every clause in it does at the end of its chain.
-/
theorem onClause_toClause
    (joined :
      ∀ {chain clauses}, (∀ clause ∈ clauses, onClause chain clause) →
        onClause chain (join clauses))
    (enclosed :
      ∀ {chain path clause}, onStep chain path → onClause (chain ++ [path]) clause →
        onClause chain (.nested path clause)) :
    ∀ {chain : List String} (scope : Scope),
      scope.Upholds (fun below => onClause (chain ++ below)) (fun below => onStep (chain ++ below)) →
      onClause chain (scope.toClause join)
  | chain, .bare clause, upheld => by
      simpa [toClause, Upholds] using upheld
  | chain, .group path members, upheld => by
      obtain ⟨step, inside⟩ := upheld
      rw [toClause]
      refine enclosed (by simpa using step) (joined ?_)
      exact onClause_toClauses joined enclosed members (by simpa using inside)

theorem onClause_toClauses
    (joined :
      ∀ {chain clauses}, (∀ clause ∈ clauses, onClause chain clause) →
        onClause chain (join clauses))
    (enclosed :
      ∀ {chain path clause}, onStep chain path → onClause (chain ++ [path]) clause →
        onClause chain (.nested path clause)) :
    ∀ {chain : List String} (forest : List Scope),
      AllUphold (fun below => onClause (chain ++ below)) (fun below => onStep (chain ++ below))
        forest →
      ∀ clause ∈ toClauses join forest, onClause chain clause
  | chain, [], _ => by
      simp [toClauses]
  | chain, scope :: rest, upheld => by
      rw [toClauses, List.forall_mem_cons]
      exact ⟨onClause_toClause joined enclosed scope upheld.1,
        onClause_toClauses joined enclosed rest upheld.2⟩
end

/-- What items satisfy at the end of their chains, their join does at the end of a common one. -/
theorem onClause_joinBelow
    (joined :
      ∀ {chain clauses}, (∀ clause ∈ clauses, onClause chain clause) →
        onClause chain (join clauses))
    (enclosed :
      ∀ {chain path clause}, onStep chain path → onClause (chain ++ [path]) clause →
        onClause chain (.nested path clause))
    {common : List String}
    {items : List Pending}
    (shared : ∀ item ∈ items, common <+: item.chain)
    (upheld : ∀ item ∈ items, EveryStep onStep item.chain ∧ onClause item.chain item.clause) :
    onClause common (Pending.joinBelow join common items).clause := by
  have inside :
      AllUphold (fun below => onClause (common ++ below)) (fun below => onStep (common ++ below))
        (forest (items.map (Pending.below common.length))) := by
    rw [allUphold_forest, List.forall_mem_map]
    intro item member
    have rejoined : common ++ (item.below common.length).chain = item.chain :=
      List.prefix_iff_eq_append.mp (shared item member)
    obtain ⟨steps, satisfied⟩ := upheld item member
    rw [← rejoined] at steps satisfied
    exact ⟨(everyStep_append.mp steps).2, satisfied⟩
  exact joined (@onClause_toClauses join onClause onStep joined enclosed common _ inside)

/-- An item that starts with a path is entered into the group of that path. -/
theorem insert_of_shared
    {path : String}
    {item : Pending}
    {level : List Scope}
    (shared : [path] <+: item.chain) :
    insert item.clause item.chain level =
      updateGroup path (insert item.clause (item.below 1).chain) level := by
  obtain ⟨rest, split⟩ := shared
  have behind : (item.below 1).chain = rest := Pending.chain_below_of_append split
  rw [behind, ← split]
  rfl

theorem foldl_insert_of_shared
    {path : String}
    {items : List Pending}
    {members : List Scope}
    (shared : ∀ item ∈ items, [path] <+: item.chain) :
    items.foldl (fun forest item => insert item.clause item.chain forest)
        [.group path members] =
      [.group path ((items.map (Pending.below 1)).foldl
        (fun forest item => insert item.clause item.chain forest) members)] := by
  induction items generalizing members with
  | nil =>
      rfl
  | cons item rest inductionHypothesis =>
      rw [List.forall_mem_cons] at shared
      rw [List.foldl_cons, insert_of_shared shared.1, updateGroup, if_pos rfl,
        inductionHypothesis shared.2]
      rfl

/-- The forest of items that all start with a path is one group of that path. -/
theorem forest_of_shared
    {path : String}
    {items : List Pending}
    (nonempty : items ≠ [])
    (shared : ∀ item ∈ items, [path] <+: item.chain) :
    forest items = [.group path (forest (items.map (Pending.below 1)))] := by
  cases items with
  | nil =>
      exact (nonempty rfl).elim
  | cons item rest =>
      rw [List.forall_mem_cons] at shared
      rw [forest, List.foldl_cons, insert_of_shared shared.1, updateGroup,
        foldl_insert_of_shared shared.2]
      rfl

/-- It makes no difference to the closed join that the scopes of a common chain stay pending. -/
theorem close_joinBelow
    (alone : ∀ clause, join [clause] = clause)
    {common : List String}
    {items : List Pending}
    (nonempty : items ≠ [])
    (shared : ∀ item ∈ items, common <+: item.chain) :
    (Pending.joinBelow join common items).close = join (toClauses join (forest items)) := by
  induction common generalizing items with
  | nil =>
      rw [Pending.close, Pending.clause_joinBelow, List.length_nil, Pending.below_zero,
        List.map_id]
      rfl
  | cons path rest inductionHypothesis =>
      have startsWithPath : ∀ item ∈ items, [path] <+: item.chain :=
        fun item member => (List.prefix_append [path] rest).trans (shared item member)
      have sharedBelow : ∀ item ∈ items.map (Pending.below 1), rest <+: item.chain := by
        rw [List.forall_mem_map]
        exact fun item member => (shared item member).drop 1
      have belowPath :
          (Pending.joinBelow join (path :: rest) items).close =
            .nested path (Pending.joinBelow join rest (items.map (Pending.below 1))).close := by
        have sameItems :
            items.map (Pending.below (rest.length + 1)) =
              (items.map (Pending.below 1)).map (Pending.below rest.length) := by
          simp [Pending.below_below, Nat.add_comm]
        rw [Pending.close, Pending.close, Pending.clause_joinBelow, Pending.clause_joinBelow,
          List.length_cons, sameItems]
        rfl
      rw [belowPath, inductionHypothesis (by simpa using nonempty) sharedBelow,
        forest_of_shared nonempty startsWithPath]
      exact (alone _).symm

end Closing

section Tidiness

mutual
/-- No group within a scope is empty, and no two siblings have the same path. -/
def IsTidy : Scope → Prop
  | .bare _ => True
  | .group _ members => members ≠ [] ∧ AreTidy members

/-- No group of a level is empty, and no two siblings have the same path. -/
def AreTidy : List Scope → Prop
  | [] => True
  | scope :: rest =>
      scope.IsTidy ∧ (∀ path, scope.path? = some path → path ∉ groupPaths rest) ∧ AreTidy rest
end

/-- Changing the group of a path makes sure that there is one, and opens no other. -/
theorem mem_groupPaths_updateGroup
    {path other : String}
    {change : List Scope → List Scope}
    {forest : List Scope} :
    other ∈ groupPaths (updateGroup path change forest) ↔
      other = path ∨ other ∈ groupPaths forest := by
  induction forest with
  | nil =>
      simp [updateGroup, groupPaths, path?]
  | cons scope rest inductionHypothesis =>
      cases scope with
      | bare clause =>
          simpa [updateGroup, groupPaths, path?] using inductionHypothesis
      | group present members =>
          by_cases same : present = path
          · subst present
            simp [updateGroup, groupPaths, path?]
          · simp only [groupPaths] at inductionHypothesis
            simp only [updateGroup, same, ↓reduceIte, groupPaths, path?, List.filterMap_cons,
              List.mem_cons, inductionHypothesis]
            tauto

/-- A level stays tidy when a group of it is changed into another tidy level. -/
theorem areTidy_updateGroup
    {path : String}
    {change : List Scope → List Scope}
    {forest : List Scope}
    (filled : ∀ members, change members ≠ [])
    (tidied : ∀ members, AreTidy members → AreTidy (change members))
    (tidy : AreTidy forest) :
    AreTidy (updateGroup path change forest) := by
  induction forest with
  | nil =>
      simpa [updateGroup, AreTidy, IsTidy, filled, groupPaths] using tidied [] trivial
  | cons scope rest inductionHypothesis =>
      obtain ⟨scopeTidy, apart, restTidy⟩ := tidy
      cases scope with
      | bare clause =>
          exact ⟨scopeTidy, by simp [path?], inductionHypothesis restTidy⟩
      | group present members =>
          by_cases same : present = path
          · subst present
            simp only [updateGroup, ↓reduceIte]
            exact ⟨⟨filled members, tidied members scopeTidy.2⟩, apart, restTidy⟩
          · simp only [updateGroup, same, ↓reduceIte]
            refine ⟨scopeTidy, ?_, inductionHypothesis restTidy⟩
            rintro _ ⟨⟩
            rw [mem_groupPaths_updateGroup, not_or]
            exact ⟨same, apart present rfl⟩

theorem insert_ne_nil
    {clause : Clause}
    {chain : List String}
    {forest : List Scope} :
    insert clause chain forest ≠ [] := by
  cases chain with
  | nil =>
      simp [insert]
  | cons path rest =>
      cases forest with
      | nil =>
          simp [insert, updateGroup]
      | cons scope forest =>
          cases scope with
          | bare =>
              simp [insert, updateGroup]
          | group =>
              simp only [insert, updateGroup]
              split <;> simp

/-- A bare clause behind a tidy level leaves it tidy. -/
theorem areTidy_append_bare
    {clause : Clause}
    {forest : List Scope}
    (tidy : AreTidy forest) :
    AreTidy (forest ++ [.bare clause]) := by
  induction forest with
  | nil =>
      simp [AreTidy, IsTidy, path?]
  | cons scope rest inductionHypothesis =>
      obtain ⟨scopeTidy, apart, restTidy⟩ := tidy
      refine ⟨scopeTidy, ?_, inductionHypothesis restTidy⟩
      simpa [groupPaths, path?] using apart

/-- A tidy level stays tidy when a clause is entered. -/
theorem areTidy_insert
    {clause : Clause}
    {chain : List String}
    {forest : List Scope}
    (tidy : AreTidy forest) :
    AreTidy (insert clause chain forest) := by
  induction chain generalizing forest with
  | nil =>
      exact areTidy_append_bare tidy
  | cons path rest inductionHypothesis =>
      exact areTidy_updateGroup (fun _ => insert_ne_nil) (fun _ => inductionHypothesis) tidy

/-- The forest of any items is tidy. -/
theorem areTidy_forest
    (items : List Pending) :
    AreTidy (forest items) := by
  refine List.foldlRecOn items _ trivial ?_
  intro forest tidy item _
  exact areTidy_insert tidy

end Tidiness

end Scope

end FacetSearch
