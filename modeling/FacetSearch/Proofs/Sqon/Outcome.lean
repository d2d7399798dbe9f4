import FacetSearch.Proofs.Indexed
import FacetSearch.Proofs.Schema.CommonChain
import FacetSearch.Proofs.Sqon.LeafOutcome

namespace FacetSearch.Sqon

/-!
# What a tree compiles to

The pending clause of a tree does not depend on where the tree stands nor on
how many levels are left below the limit, as long as they suffice.  So trees
compile node by node: the outcome of a combinator is made from the outcomes of
its children.
-/

mutual
/-- A property of trees follows when every node has it once all of its children do. -/
theorem inductionOnChildren
    {motive : Sqon → Prop}
    (leaf : ∀ condition, motive (.leaf condition))
    (combine :
      ∀ op content, (∀ child ∈ content, motive child) → motive (.combine op content)) :
    ∀ sqon, motive sqon
  | .leaf condition => leaf condition
  | .combine op content => combine op content (inductionOnContent leaf combine content)

theorem inductionOnContent
    {motive : Sqon → Prop}
    (leaf : ∀ condition, motive (.leaf condition))
    (combine :
      ∀ op content, (∀ child ∈ content, motive child) → motive (.combine op content)) :
    ∀ content : List Sqon, ∀ child ∈ content, motive child
  | [] => by
      simp
  | child :: rest =>
      List.forall_mem_cons.mpr
        ⟨inductionOnChildren leaf combine child, inductionOnContent leaf combine rest⟩
end

/-- A list is as deep as its deepest tree. -/
theorem depthOf_le_iff
    {content : List Sqon}
    {bound : Nat} :
    depthOf content ≤ bound ↔ ∀ child ∈ content, child.depth ≤ bound := by
  induction content with
  | nil =>
      simp [depthOf]
  | cons child rest inductionHypothesis =>
      rw [depthOf, Nat.max_le, inductionHypothesis, List.forall_mem_cons]

/-- Two lists in a row are as deep as the deeper one. -/
theorem depthOf_append
    (content later : List Sqon) :
    depthOf (content ++ later) = max (depthOf content) (depthOf later) := by
  induction content with
  | nil =>
      simp [depthOf]
  | cons child rest inductionHypothesis =>
      rw [List.cons_append, depthOf, depthOf, inductionHypothesis, max_assoc]

theorem commonChain_siblings_isPrefix
    {children : List Pending} :
    ∀ child ∈ children, commonChain (children.map Pending.chain) <+: child.chain := by
  intro child member
  exact commonChain_isPrefix (List.mem_map_of_mem member)

/-- A tree compiles to a pending clause, at some place below some limit. -/
def Compiles
    (registry : Registry)
    (sqon : Sqon)
    (pending : Pending) :
    Prop :=
  ∃ limit remaining place, Compiler.node registry limit remaining place sqon = .ok pending

namespace Compiler

/-- Compiled children combine to a pending clause. -/
inductive Combination : Combinator → List Pending → Pending → Prop where
  | negation
      {child : Pending} :
      Combination .not [child] (negation child)
  | emptyAnd : Combination .and [] (.bare .matchAll)
  | emptyOr : Combination .or [] (.bare .matchAll)
  | conjunction
      {children : List Pending}
      (nonempty : children ≠ []) :
      Combination .and children (joinSiblings .all children)
  | disjunction
      {children : List Pending}
      (nonempty : children ≠ []) :
      Combination .or children (joinSiblings .any children)

/-- Combining succeeds exactly with the combination of the children, at any place. -/
theorem combine_eq_ok_iff
    {op : Combinator}
    {place : Location}
    {children : List Pending}
    {pending : Pending} :
    combine op place children = .ok pending ↔ Combination op children pending := by
  constructor
  · intro combined
    cases op with
    | not =>
        match children, combined with
        | [child], combined =>
            obtain rfl := Except.ok.inj combined
            exact .negation
    | and =>
        cases children with
        | nil =>
            obtain rfl := Except.ok.inj combined
            exact .emptyAnd
        | cons first rest =>
            obtain rfl := Except.ok.inj combined
            exact .conjunction (List.cons_ne_nil first rest)
    | or =>
        cases children with
        | nil =>
            obtain rfl := Except.ok.inj combined
            exact .emptyOr
        | cons first rest =>
            obtain rfl := Except.ok.inj combined
            exact .disjunction (List.cons_ne_nil first rest)
  · intro combination
    cases combination with
    | negation | emptyAnd | emptyOr =>
        rfl
    | conjunction nonempty | disjunction nonempty =>
        cases children with
        | nil =>
            exact (nonempty rfl).elim
        | cons first rest =>
            rfl

/-- Children combine unless a negation has more or fewer than one. -/
theorem exists_combination_iff
    {op : Combinator}
    {children : List Pending} :
    (∃ pending, Combination op children pending) ↔ (op = .not → children.length = 1) := by
  constructor
  · rintro ⟨pending, combination⟩ rfl
    cases combination
    rfl
  · intro single
    cases op with
    | not =>
        obtain ⟨child, rfl⟩ := List.length_eq_one_iff.mp (single rfl)
        exact ⟨_, .negation⟩
    | and =>
        by_cases empty : children = []
        · subst empty
          exact ⟨_, .emptyAnd⟩
        · exact ⟨_, .conjunction empty⟩
    | or =>
        by_cases empty : children = []
        · subst empty
          exact ⟨_, .emptyOr⟩
        · exact ⟨_, .disjunction empty⟩

mutual
/-- A compiled tree fits the levels that were left. -/
theorem depth_le_of_node
    {registry : Registry}
    {limit remaining : Nat} :
    ∀ {sqon : Sqon} {place : Location} {pending : Pending},
      node registry limit remaining place sqon = .ok pending → sqon.depth ≤ remaining
  | .leaf condition, place, pending, compiled => by
      rw [node] at compiled
      split at compiled
      · simp [fault] at compiled
      · rw [depth]
        omega
  | .combine op content, place, pending, compiled => by
      rw [node] at compiled
      split at compiled
      · simp [fault] at compiled
      · cases compiledChildren :
            children registry limit (remaining - 1) place 0 content with
        | error failure =>
            simp [compiledChildren] at compiled
        | ok pendings =>
            have fitting := depthOf_le_of_children compiledChildren
            rw [depth]
            omega

theorem depthOf_le_of_children
    {registry : Registry}
    {limit remaining : Nat} :
    ∀ {content : List Sqon} {place : Location} {position : Nat} {pendings : List Pending},
      children registry limit remaining place position content = .ok pendings →
      depthOf content ≤ remaining
  | [], place, position, pendings, compiled => by
      simp [depthOf]
  | child :: rest, place, position, pendings, compiled => by
      rw [children] at compiled
      cases first : node registry limit remaining (place.child position) child with
      | error failure =>
          simp [first] at compiled
      | ok pending =>
          cases others : children registry limit remaining place (position + 1) rest with
          | error failure =>
              simp [first, others] at compiled
          | ok later =>
              rw [depthOf]
              exact Nat.max_le.mpr ⟨depth_le_of_node first, depthOf_le_of_children others⟩
end

mutual
/-- A tree compiles to the same pending clause wherever enough levels are left. -/
theorem node_elsewhere
    {registry : Registry}
    {limit remaining limit' remaining' : Nat} :
    ∀ {sqon : Sqon} {place place' : Location} {pending : Pending},
      node registry limit remaining place sqon = .ok pending →
      sqon.depth ≤ remaining' →
      node registry limit' remaining' place' sqon = .ok pending
  | .leaf condition, place, place', pending, compiled, fitting => by
      rw [node] at compiled ⊢
      rw [depth] at fitting
      have levelsLeft : remaining' ≠ 0 := by omega
      split at compiled
      · simp [fault] at compiled
      · rw [leaf_eq_ok_iff] at compiled
        simpa [levelsLeft, leaf_eq_ok_iff] using compiled
  | .combine op content, place, place', pending, compiled, fitting => by
      rw [node] at compiled ⊢
      rw [depth] at fitting
      have levelsLeft : remaining' ≠ 0 := by omega
      split at compiled
      · simp [fault] at compiled
      · cases compiledChildren :
            children registry limit (remaining - 1) place 0 content with
        | error failure =>
            simp [compiledChildren] at compiled
        | ok pendings =>
            have sameChildren :
                children registry limit' (remaining' - 1) place' 0 content = .ok pendings :=
              children_elsewhere compiledChildren (by omega)
            simp only [compiledChildren, combine_eq_ok_iff] at compiled
            simpa [levelsLeft, sameChildren, combine_eq_ok_iff] using compiled

theorem children_elsewhere
    {registry : Registry}
    {limit remaining limit' remaining' : Nat} :
    ∀ {content : List Sqon} {place place' : Location} {position position' : Nat}
      {pendings : List Pending},
      children registry limit remaining place position content = .ok pendings →
      depthOf content ≤ remaining' →
      children registry limit' remaining' place' position' content = .ok pendings
  | [], place, place', position, position', pendings, compiled, fitting => by
      simpa [children] using compiled
  | child :: rest, place, place', position, position', pendings, compiled, fitting => by
      rw [depthOf] at fitting
      rw [children] at compiled ⊢
      cases first : node registry limit remaining (place.child position) child with
      | error failure =>
          simp [first] at compiled
      | ok pending =>
          cases others : children registry limit remaining place (position + 1) rest with
          | error failure =>
              simp [first, others] at compiled
          | ok later =>
              have sameFirst :
                  node registry limit' remaining' (place'.child position') child = .ok pending :=
                node_elsewhere first (by omega)
              have sameOthers :
                  children registry limit' remaining' place' (position' + 1) rest = .ok later :=
                children_elsewhere others (by omega)
              simpa [first, others, sameFirst, sameOthers] using compiled
end

/-- Children compile one by one. -/
theorem children_eq_ok_iff
    {registry : Registry}
    {limit remaining : Nat}
    {place : Location}
    {position : Nat}
    {content : List Sqon}
    {pendings : List Pending} :
    children registry limit remaining place position content = .ok pendings ↔
      depthOf content ≤ remaining ∧ List.Forall₂ (Compiles registry) content pendings := by
  induction content generalizing position pendings with
  | nil =>
      simp [children, depthOf, eq_comm]
  | cons child rest inductionHypothesis =>
      rw [depthOf, Nat.max_le, List.forall₂_cons_left_iff]
      constructor
      · intro compiled
        rw [children] at compiled
        cases first : node registry limit remaining (place.child position) child with
        | error failure =>
            simp [first] at compiled
        | ok pending =>
            cases others : children registry limit remaining place (position + 1) rest with
            | error failure =>
                simp [first, others] at compiled
            | ok later =>
                obtain ⟨restFitting, restCompiles⟩ := inductionHypothesis.mp others
                simp only [first, others, Except.ok.injEq] at compiled
                exact ⟨⟨depth_le_of_node first, restFitting⟩, pending, later,
                  ⟨limit, remaining, _, first⟩, restCompiles, compiled.symm⟩
      · rintro ⟨⟨fitting, restFitting⟩, pending, later, ⟨_, _, _, compiled⟩, restCompiles, rfl⟩
        have first :
            node registry limit remaining (place.child position) child = .ok pending :=
          node_elsewhere compiled fitting
        have others :
            children registry limit remaining place (position + 1) rest = .ok later :=
          inductionHypothesis.mpr ⟨restFitting, restCompiles⟩
        simp [children, first, others]

/-- A node compiles when enough levels are left and the tree compiles at all. -/
theorem node_eq_ok_iff
    {registry : Registry}
    {limit remaining : Nat}
    {place : Location}
    {sqon : Sqon}
    {pending : Pending} :
    node registry limit remaining place sqon = .ok pending ↔
      sqon.depth ≤ remaining ∧ Compiles registry sqon pending := by
  constructor
  · intro compiled
    exact ⟨depth_le_of_node compiled, limit, remaining, place, compiled⟩
  · rintro ⟨fitting, _, _, _, compiled⟩
    exact node_elsewhere compiled fitting

end Compiler

section Compiles

variable {registry : Registry}

theorem outcomes_ne_nil
    {content : List Sqon}
    {children : List Pending}
    (nonempty : content ≠ [])
    (compile : List.Forall₂ (Compiles registry) content children) :
    children ≠ [] := by
  rintro rfl
  exact nonempty (List.forall₂_nil_right_iff.mp compile)

/-- A tree has one outcome. -/
theorem Compiles.unique
    {sqon : Sqon}
    {first second : Pending}
    (compiles : Compiles registry sqon first)
    (alsoCompiles : Compiles registry sqon second) :
    first = second := by
  have compiled : Compiler.node registry 0 sqon.depth .root sqon = .ok first :=
    Compiler.node_eq_ok_iff.mpr ⟨Nat.le_refl _, compiles⟩
  have alsoCompiled : Compiler.node registry 0 sqon.depth .root sqon = .ok second :=
    Compiler.node_eq_ok_iff.mpr ⟨Nat.le_refl _, alsoCompiles⟩
  exact Except.ok.inj (compiled.symm.trans alsoCompiled)

/-- The trees of a list have one outcome each. -/
theorem outcomes_unique
    {content : List Sqon}
    {children others : List Pending}
    (compile : List.Forall₂ (Compiles registry) content children)
    (alsoCompile : List.Forall₂ (Compiles registry) content others) :
    children = others := by
  have functional : Relator.RightUnique (Compiles registry) := fun _ _ _ => Compiles.unique
  exact List.right_unique_forall₂' functional compile alsoCompile

/-- The outcomes of two lists in a row are those of the first and then those of the second. -/
theorem outcomes_append_iff
    {content later : List Sqon}
    {children : List Pending} :
    List.Forall₂ (Compiles registry) (content ++ later) children ↔
      ∃ outcomes laterOutcomes,
        List.Forall₂ (Compiles registry) content outcomes ∧
          List.Forall₂ (Compiles registry) later laterOutcomes ∧
            outcomes ++ laterOutcomes = children := by
  constructor
  · intro compile
    exact ⟨_, _, (List.forall₂_take_append _ _ _ compile.flip).flip,
      (List.forall₂_drop_append _ _ _ compile.flip).flip, List.take_append_drop _ _⟩
  · rintro ⟨outcomes, laterOutcomes, compile, laterCompile, rfl⟩
    exact List.rel_append compile laterCompile

/-- A leaf compiles to its outcome on the declared field. -/
theorem compiles_leaf_iff
    {condition : Leaf}
    {pending : Pending} :
    Compiles registry (.leaf condition) pending ↔
      ∃ field, registry.field? condition.field = some field ∧
        Compiler.LeafOutcome field condition pending := by
  constructor
  · intro compiles
    have compiled : Compiler.node registry 1 1 .root (.leaf condition) = .ok pending :=
      Compiler.node_eq_ok_iff.mpr ⟨by simp [depth], compiles⟩
    rw [Compiler.node] at compiled
    exact Compiler.leaf_eq_ok_iff.mp compiled
  · intro outcome
    refine ⟨1, 1, .root, ?_⟩
    rw [Compiler.node]
    exact Compiler.leaf_eq_ok_iff.mpr outcome

/-- A combinator compiles to the combination of what its children compile to. -/
theorem compiles_combine_iff
    {op : Combinator}
    {content : List Sqon}
    {pending : Pending} :
    Compiles registry (.combine op content) pending ↔
      ∃ children, List.Forall₂ (Compiles registry) content children ∧
        Compiler.Combination op children pending := by
  constructor
  · rintro ⟨limit, remaining, place, compiled⟩
    rw [Compiler.node] at compiled
    split at compiled
    · simp [Compiler.fault] at compiled
    · cases compiledChildren :
          Compiler.children registry limit (remaining - 1) place 0 content with
      | error failure =>
          simp [compiledChildren] at compiled
      | ok children =>
          simp only [compiledChildren, Compiler.combine_eq_ok_iff] at compiled
          exact ⟨children, (Compiler.children_eq_ok_iff.mp compiledChildren).2, compiled⟩
  · rintro ⟨children, compile, combination⟩
    refine ⟨0, depthOf content + 1, Location.root, ?_⟩
    have compiledChildren :
        Compiler.children registry 0 (depthOf content) Location.root 0 content = .ok children :=
      Compiler.children_eq_ok_iff.mpr ⟨Nat.le_refl _, compile⟩
    simp [Compiler.node, compiledChildren, Compiler.combine_eq_ok_iff, combination]

/-- Compiling succeeds with the closed outcome of a tree that is not too deep. -/
theorem compile_eq_ok_iff
    {limit : Nat}
    {sqon : Sqon}
    {clause : Clause} :
    sqon.compile registry limit = .ok clause ↔
      sqon.depth ≤ limit ∧ ∃ pending, Compiles registry sqon pending ∧ pending.close = clause := by
  rw [compile, Compiler.map_eq_ok_iff]
  simp only [Compiler.node_eq_ok_iff, and_assoc, exists_and_left]

/-- Compiling succeeds for the trees that are not too deep and compile at all. -/
theorem exists_compile_eq_ok_iff
    {limit : Nat}
    {sqon : Sqon} :
    (∃ clause, sqon.compile registry limit = .ok clause) ↔
      sqon.depth ≤ limit ∧ ∃ pending, Compiles registry sqon pending := by
  constructor
  · rintro ⟨clause, compiled⟩
    obtain ⟨fitting, pending, compiles, -⟩ := compile_eq_ok_iff.mp compiled
    exact ⟨fitting, pending, compiles⟩
  · rintro ⟨fitting, pending, compiles⟩
    exact ⟨pending.close, compile_eq_ok_iff.mpr ⟨fitting, pending, compiles, rfl⟩⟩

/-- A child of a node that is not too deep compiles on its own. -/
theorem compile_child
    {limit : Nat}
    {op : Combinator}
    {content : List Sqon}
    {child : Sqon}
    {pending : Pending}
    (fitting : (Sqon.combine op content).depth ≤ limit)
    (member : child ∈ content)
    (compiles : Compiles registry child pending) :
    child.compile registry limit = .ok pending.close := by
  have shallower := depthOf_le_iff.mp (Nat.le_refl _) child member
  rw [depth] at fitting
  exact compile_eq_ok_iff.mpr ⟨by omega, pending, compiles, rfl⟩

end Compiles

end FacetSearch.Sqon
