import FacetSearch.Proofs.Schema.Ancestors
import FacetSearch.Proofs.Sqon.LeafFault
import FacetSearch.Proofs.Sqon.Outcome

namespace FacetSearch

/-!
# Which trees compile, and what the others fail with

A node is found at its address, the positions of the children on the way down
to it.  It is in order by itself when it is not too deep, a negation has one
operand, and a leaf has all that it needs.  A tree compiles when all of its
nodes are in order.  Otherwise the error is that of the first node that is not,
children before their parent and from left to right; what lies below a node
that is too deep is not looked at.
-/

/-- The place of a node is reported as the root with the child positions behind it. -/
theorem Location.text_node
    {address : List Nat} :
    (Location.node address).text =
      "sqon" ++
        String.join (address.map fun position => ".content[" ++ toString position ++ "]") := by
  have behind :
      ∀ start : String,
        address.foldl (fun text step => text ++ ".content[" ++ toString step ++ "]") start =
          start ++
            String.join (address.map fun position => ".content[" ++ toString position ++ "]") := by
    induction address with
    | nil =>
        simp
    | cons position rest inductionHypothesis =>
        intro start
        rw [List.foldl_cons, inductionHypothesis]
        simp [String.append_assoc]
  exact behind "sqon"

namespace Sqon

/-- The node at an address. -/
def nodeAt? : List Nat → Sqon → Option Sqon
  | [], sqon => some sqon
  | position :: rest, .combine _ content => content[position]?.bind (nodeAt? rest)
  | _ :: _, .leaf _ => none

/-- Of two addresses the first comes earlier: inside the second one, or to the left of it. -/
def Precedes : List Nat → List Nat → Prop
  | [], _ => False
  | _ :: _, [] => True
  | position :: rest, position' :: rest' =>
      position < position' ∨ position = position' ∧ Precedes rest rest'

/-- A node that is in order by itself, at any depth. -/
def IsAdmissible (registry : Registry) : Sqon → Prop
  | .leaf condition => condition.IsAdmissible registry
  | .combine .not content => content.length = 1
  | .combine .and _ | .combine .or _ => True

/-- What is wrong with the node at an address by itself. -/
def faultAt?
    (registry : Registry)
    (limit : Nat)
    (address : List Nat)
    (node : Sqon) :
    Option Error :=
  if limit ≤ address.length then some (.invalidSqon (.tooDeep limit) (.node address))
  else
    match node with
    | .leaf condition => condition.fault? registry (.node address)
    | .combine .not content =>
        if content.length = 1 then none
        else some (.invalidSqon (.operandCount content.length) (.node address))
    | .combine .and _ | .combine .or _ => none

/-- The first faulty node of a tree, among those with at most `levels` levels above them. -/
structure IsFirstFault
    (fault? : List Nat → Sqon → Option Error)
    (levels : Nat)
    (sqon : Sqon)
    (address : List Nat)
    (failure : Error) : Prop where
  faulty : ∃ node, sqon.nodeAt? address = some node ∧ fault? address node = some failure
  visited : address.length ≤ levels
  first :
    ∀ earlier node, sqon.nodeAt? earlier = some node → earlier.length ≤ levels →
      Precedes earlier address → fault? earlier node = none

theorem precedes_trichotomy
    (first second : List Nat) :
    Precedes first second ∨ first = second ∨ Precedes second first := by
  induction first generalizing second with
  | nil =>
      cases second <;> simp [Precedes]
  | cons position rest inductionHypothesis =>
      cases second with
      | nil =>
          simp [Precedes]
      | cons position' rest' =>
          simp only [Precedes, List.cons.injEq]
          have ofRest := inductionHypothesis rest'
          have ofPosition := Nat.lt_trichotomy position position'
          tauto

/-- A tree has one first fault. -/
theorem IsFirstFault.unique
    {fault? : List Nat → Sqon → Option Error}
    {levels : Nat}
    {sqon : Sqon}
    {address address' : List Nat}
    {failure failure' : Error}
    (isFirst : IsFirstFault fault? levels sqon address failure)
    (alsoFirst : IsFirstFault fault? levels sqon address' failure') :
    address = address' ∧ failure = failure' := by
  obtain ⟨node, found, faulty⟩ := isFirst.faulty
  obtain ⟨node', found', faulty'⟩ := alsoFirst.faulty
  rcases precedes_trichotomy address address' with precedes | rfl | precedes
  · have clean := alsoFirst.first address node found isFirst.visited precedes
    simp [clean] at faulty
  · obtain rfl : node = node' := Option.some.inj (found.symm.trans found')
    exact ⟨rfl, Option.some.inj (faulty.symm.trans faulty')⟩
  · have clean := isFirst.first address' node' found' alsoFirst.visited precedes
    simp [clean] at faulty'

section Faults

variable {registry : Registry} {limit : Nat}

theorem faultAt?_eq_none_iff
    {address : List Nat}
    {node : Sqon} :
    faultAt? registry limit address node = none ↔
      address.length < limit ∧ node.IsAdmissible registry := by
  unfold faultAt?
  by_cases tooDeep : limit ≤ address.length
  · simp [tooDeep, Nat.not_lt.mpr tooDeep]
  · have shallow : address.length < limit := Nat.not_le.mp tooDeep
    rw [if_neg tooDeep, iff_true_intro shallow, true_and]
    match node with
    | .leaf condition =>
        exact Leaf.fault?_eq_none_iff
    | .combine .not content =>
        simp [IsAdmissible]
    | .combine .and content | .combine .or content =>
        simp [IsAdmissible]

/-- A fault is reported at the place of its node. -/
theorem place?_of_faultAt?
    {address : List Nat}
    {node : Sqon}
    {failure : Error}
    (faulty : faultAt? registry limit address node = some failure) :
    failure.place? = some (.node address) := by
  unfold faultAt? at faulty
  split at faulty
  · cases faulty
    rfl
  · split at faulty
    · exact Leaf.place?_of_fault? faulty
    · split at faulty
      · cases faulty
      · cases faulty
        rfl
    all_goals cases faulty

end Faults

namespace Compiler

variable {registry : Registry} {limit : Nat}

/-- Children that compile together compile one by one, each at its own place. -/
theorem exists_node_of_children
    {content : List Sqon}
    {remaining : Nat}
    {place : Location}
    {outcomes : List Pending}
    (compiled : children registry limit remaining place 0 content = .ok outcomes)
    {position : Nat}
    {child : Sqon}
    (found : content[position]? = some child) :
    ∃ outcome, node registry limit remaining (place.child position) child = .ok outcome := by
  obtain ⟨fitting, compile⟩ := children_eq_ok_iff.mp compiled
  have member : child ∈ content := List.mem_of_getElem? found
  obtain ⟨outcome, -, compiles⟩ := exists_right_of_forall₂ compile member
  exact ⟨outcome, node_eq_ok_iff.mpr ⟨depthOf_le_iff.mp fitting child member, compiles⟩⟩

/-- Children fail with the failure of the first of them that does not compile. -/
theorem exists_failing_child
    {content : List Sqon}
    {remaining start : Nat}
    {place : Location}
    {failure : Error}
    (failed : children registry limit remaining place start content = .error failure) :
    ∃ position child,
      content[position]? = some child ∧
        node registry limit remaining (place.child (start + position)) child = .error failure ∧
        ∀ earlier < position, ∀ sibling, content[earlier]? = some sibling →
          ∃ outcome,
            node registry limit remaining (place.child (start + earlier)) sibling =
              .ok outcome := by
  induction content generalizing start with
  | nil =>
      simp [children] at failed
  | cons child rest inductionHypothesis =>
      rw [children] at failed
      cases first : node registry limit remaining (place.child start) child with
      | error failure' =>
          simp only [first, Except.error.injEq] at failed
          subst failure'
          exact ⟨0, child, rfl, first, by simp⟩
      | ok outcome =>
          cases others : children registry limit remaining place (start + 1) rest with
          | ok outcomes =>
              simp [first, others] at failed
          | error failure' =>
              simp only [first, others, Except.error.injEq] at failed
              subst failure'
              obtain ⟨position, later, found, laterFails, before⟩ := inductionHypothesis others
              refine ⟨position + 1, later, by simpa using found, ?_, ?_⟩
              · rw [← laterFails, Nat.add_assoc, Nat.add_comm 1]
              · intro earlier isBefore sibling siblingFound
                cases earlier with
                | zero =>
                    obtain rfl : child = sibling := by simpa using siblingFound
                    exact ⟨outcome, first⟩
                | succ earlier =>
                    obtain ⟨siblingOutcome, compiled⟩ :=
                      before earlier (by omega) sibling (by simpa using siblingFound)
                    exact ⟨siblingOutcome, by rw [← compiled, Nat.add_assoc, Nat.add_comm 1]⟩

/-- Combining fails exactly for a negation that has not one operand. -/
theorem combine_eq_error_iff
    {op : Combinator}
    {place : Location}
    {outcomes : List Pending}
    {failure : Error} :
    combine op place outcomes = .error failure ↔
      op = .not ∧ outcomes.length ≠ 1 ∧
        .invalidSqon (.operandCount outcomes.length) place = failure := by
  match op, outcomes with
  | .not, [] | .not, [_] | .not, _ :: _ :: _ =>
      simp [combine, fault]
  | .and, [] | .and, _ :: _ | .or, [] | .or, _ :: _ =>
      simp [combine]

end Compiler

open Compiler

section Outcomes

variable {registry : Registry} {limit : Nat}

/-- A node that compiles is in order by itself. -/
theorem faultAt?_root_of_node
    {steps : List Nat}
    {remaining : Nat}
    (levels : steps.length + remaining = limit)
    {sqon : Sqon}
    {outcome : Pending}
    (compiled : node registry limit remaining (.node steps) sqon = .ok outcome) :
    faultAt? registry limit steps sqon = none := by
  have levelsLeft : 0 < remaining := by
    have fitting := depth_le_of_node compiled
    have positive : 0 < sqon.depth := by
      cases sqon <;> simp [depth]
    omega
  refine faultAt?_eq_none_iff.mpr ⟨by omega, ?_⟩
  obtain ⟨-, compiles⟩ := node_eq_ok_iff.mp compiled
  cases sqon with
  | leaf condition =>
      rw [node, if_neg (by omega)] at compiled
      cases fault : condition.fault? registry (.node steps) with
      | none =>
          exact Leaf.fault?_eq_none_iff.mp fault
      | some failure =>
          simp [leaf_eq_error_iff.mpr fault] at compiled
  | combine op content =>
      obtain ⟨children, compile, combination⟩ := compiles_combine_iff.mp compiles
      have single := exists_combination_iff.mp ⟨outcome, combination⟩
      cases op with
      | not =>
          exact compile.length_eq.trans (single rfl)
      | and | or =>
          trivial

/-- Every node of a tree that compiles is in order. -/
theorem faultAt?_of_node
    {steps address : List Nat}
    {remaining : Nat}
    (levels : steps.length + remaining = limit)
    {sqon : Sqon}
    {outcome : Pending}
    (compiled : node registry limit remaining (.node steps) sqon = .ok outcome)
    {found : Sqon}
    (isFound : sqon.nodeAt? address = some found) :
    faultAt? registry limit (steps ++ address) found = none := by
  induction address generalizing steps remaining sqon outcome with
  | nil =>
      obtain rfl : sqon = found := Option.some.inj isFound
      simpa using faultAt?_root_of_node levels compiled
  | cons position rest inductionHypothesis =>
      cases sqon with
      | leaf condition =>
          simp [nodeAt?] at isFound
      | combine op content =>
          obtain ⟨child, childFound, isFound⟩ := Option.bind_eq_some_iff.mp isFound
          rw [node] at compiled
          split at compiled
          · simp [fault] at compiled
          · cases compiledChildren :
                children registry limit (remaining - 1) (.node steps) 0 content with
            | error failure =>
                simp [compiledChildren] at compiled
            | ok outcomes =>
                obtain ⟨childOutcome, compiledChild⟩ :=
                  exists_node_of_children compiledChildren childFound
                have levelsBelow : (steps ++ [position]).length + (remaining - 1) = limit := by
                  rw [List.length_append, List.length_singleton]
                  omega
                simpa using inductionHypothesis levelsBelow compiledChild isFound

/-- A root that is at fault itself is the first fault when nothing is found below it. -/
theorem isFirstFault_root
    {fault? : List Nat → Sqon → Option Error}
    {levels : Nat}
    {sqon : Sqon}
    {failure : Error}
    (faulty : fault? [] sqon = some failure)
    (below :
      ∀ position rest found, sqon.nodeAt? (position :: rest) = some found →
        rest.length < levels → fault? (position :: rest) found = none) :
    IsFirstFault fault? levels sqon [] failure := by
  refine ⟨⟨sqon, rfl, faulty⟩, Nat.zero_le _, ?_⟩
  intro earlier found isFound visited precedes
  cases earlier with
  | nil =>
      exact precedes.elim
  | cons position rest =>
      exact below position rest found isFound visited

/-- The first fault of a child is that of its parent when no sibling before it has any. -/
theorem IsFirstFault.below
    {fault? : List Nat → Sqon → Option Error}
    {levels position : Nat}
    {op : Combinator}
    {content : List Sqon}
    {child : Sqon}
    {address : List Nat}
    {failure : Error}
    (childFound : content[position]? = some child)
    (isFirst :
      IsFirstFault (fun address => fault? (position :: address)) levels child address failure)
    (before :
      ∀ earlier < position, ∀ sibling, content[earlier]? = some sibling →
        ∀ rest found, sibling.nodeAt? rest = some found → fault? (earlier :: rest) found = none) :
    IsFirstFault fault? (levels + 1) (.combine op content) (position :: address) failure := by
  obtain ⟨node, found, faulty⟩ := isFirst.faulty
  refine ⟨⟨node, Option.bind_eq_some_iff.mpr ⟨child, childFound, found⟩, faulty⟩,
    Nat.succ_le_succ isFirst.visited, ?_⟩
  intro earlier found isFound visited precedes
  cases earlier with
  | nil =>
      exact precedes.elim
  | cons earlier rest =>
      obtain ⟨sibling, siblingFound, isFound⟩ := Option.bind_eq_some_iff.mp isFound
      rcases precedes with isBefore | ⟨rfl, precedes⟩
      · exact before earlier isBefore sibling siblingFound rest found isFound
      · obtain rfl : child = sibling := Option.some.inj (childFound.symm.trans siblingFound)
        exact isFirst.first rest found isFound (Nat.le_of_succ_le_succ visited) precedes

/-- A node with no level left is at fault, whatever it is. -/
theorem isFirstFault_tooDeep
    {sqon : Sqon}
    {steps : List Nat}
    (levels : steps.length + 0 = limit)
    {failure : Error}
    (failed : node registry limit 0 (.node steps) sqon = .error failure) :
    IsFirstFault (fun address => faultAt? registry limit (steps ++ address)) 0 sqon [] failure := by
  obtain rfl : .invalidSqon (.tooDeep limit) (.node steps) = failure := by
    cases sqon <;> simpa [node, fault] using failed
  refine isFirstFault_root ?_ (by omega)
  rw [List.append_nil]
  unfold faultAt?
  rw [if_pos (by omega)]

/-- Nothing is at fault in a child that compiles. -/
theorem faultAt?_of_child
    {steps : List Nat}
    {remaining : Nat}
    (levels : steps.length + (remaining + 1) = limit)
    {position : Nat}
    {child : Sqon}
    {outcome : Pending}
    (compiled :
      node registry limit remaining ((Location.node steps).child position) child = .ok outcome)
    {rest : List Nat}
    {found : Sqon}
    (isFound : child.nodeAt? rest = some found) :
    faultAt? registry limit (steps ++ position :: rest) found = none := by
  have levelsBelow : (steps ++ [position]).length + remaining = limit := by
    rw [List.length_append, List.length_singleton]
    omega
  simpa using faultAt?_of_node levelsBelow compiled isFound

/-- Children that fail contain the first fault of their parent. -/
theorem exists_isFirstFault_of_children
    {op : Combinator}
    {content : List Sqon}
    {steps : List Nat}
    {remaining : Nat}
    (levels : steps.length + (remaining + 1) = limit)
    {failure : Error}
    (failed : children registry limit remaining (.node steps) 0 content = .error failure)
    (ofChild :
      ∀ child ∈ content, ∀ position,
        node registry limit remaining (.node (steps ++ [position])) child = .error failure →
          ∃ address,
            IsFirstFault (fun address => faultAt? registry limit (steps ++ [position] ++ address))
              remaining child address failure) :
    ∃ address,
      IsFirstFault (fun address => faultAt? registry limit (steps ++ address)) (remaining + 1)
        (.combine op content) address failure := by
  obtain ⟨position, child, found, childFails, before⟩ := exists_failing_child failed
  rw [Nat.zero_add] at childFails
  obtain ⟨address, isFirst⟩ :=
    ofChild child (List.mem_of_getElem? found) position childFails
  refine ⟨position :: address, IsFirstFault.below found (by simpa using isFirst) ?_⟩
  intro earlier isBefore sibling siblingFound rest node isFound
  obtain ⟨outcome, compiled⟩ := before earlier isBefore sibling siblingFound
  rw [Nat.zero_add] at compiled
  exact faultAt?_of_child levels compiled isFound

/-- A node whose children compile is the first fault when it fails itself. -/
theorem isFirstFault_of_combine
    {op : Combinator}
    {content : List Sqon}
    {steps : List Nat}
    {remaining : Nat}
    (levels : steps.length + (remaining + 1) = limit)
    {outcomes : List Pending}
    (compiled : children registry limit remaining (.node steps) 0 content = .ok outcomes)
    {failure : Error}
    (failed : Compiler.combine op (.node steps) outcomes = .error failure) :
    IsFirstFault (fun address => faultAt? registry limit (steps ++ address)) (remaining + 1)
      (.combine op content) [] failure := by
  obtain ⟨rfl, miscounted, rfl⟩ := combine_eq_error_iff.mp failed
  have sameLength := (children_eq_ok_iff.mp compiled).2.length_eq
  apply isFirstFault_root
  · rw [List.append_nil, faultAt?, if_neg (by omega), sameLength, if_neg miscounted]
  · intro position rest found isFound _
    obtain ⟨child, childFound, isFound⟩ := Option.bind_eq_some_iff.mp isFound
    obtain ⟨outcome, compiledChild⟩ := exists_node_of_children compiled childFound
    exact faultAt?_of_child levels compiledChild isFound

/-- A tree that does not compile fails with its first fault. -/
theorem exists_isFirstFault_of_node
    {sqon : Sqon}
    {steps : List Nat}
    {remaining : Nat}
    (levels : steps.length + remaining = limit)
    {failure : Error}
    (failed : node registry limit remaining (.node steps) sqon = .error failure) :
    ∃ address,
      IsFirstFault (fun address => faultAt? registry limit (steps ++ address)) remaining sqon
        address failure := by
  induction sqon using inductionOnChildren generalizing steps remaining failure with
  | leaf condition =>
      cases remaining with
      | zero =>
          exact ⟨[], isFirstFault_tooDeep levels failed⟩
      | succ remaining =>
          refine ⟨[], isFirstFault_root ?_ (by simp [nodeAt?])⟩
          rw [node, if_neg (Nat.succ_ne_zero remaining)] at failed
          rw [List.append_nil, faultAt?, if_neg (by omega)]
          exact leaf_eq_error_iff.mp failed
  | combine op content inductionHypothesis =>
      cases remaining with
      | zero =>
          exact ⟨[], isFirstFault_tooDeep levels failed⟩
      | succ remaining =>
          rw [node, if_neg (Nat.succ_ne_zero remaining), Nat.add_sub_cancel] at failed
          cases compiledChildren : children registry limit remaining (.node steps) 0 content with
          | error failure' =>
              simp only [compiledChildren, Except.error.injEq] at failed
              subst failure'
              -- One level is used up and one step is taken, so the sum stays at the limit.
              refine exists_isFirstFault_of_children levels compiledChildren ?_
              intro child member position childFails
              refine inductionHypothesis child member ?_ childFails
              rw [List.length_append, List.length_singleton]
              omega
          | ok outcomes =>
              simp only [compiledChildren] at failed
              exact ⟨[], isFirstFault_of_combine levels compiledChildren failed⟩

theorem faultAt?_of_compile
    {sqon found : Sqon}
    {clause : Clause}
    {address : List Nat}
    (compiled : sqon.compile registry limit = .ok clause)
    (isFound : sqon.nodeAt? address = some found) :
    faultAt? registry limit address found = none := by
  obtain ⟨pending, compiled, -⟩ := map_eq_ok_iff.mp compiled
  have levels : ([] : List Nat).length + limit = limit := Nat.zero_add limit
  exact faultAt?_of_node levels compiled isFound

/-- Compiling fails exactly with the first fault of a tree. -/
theorem compile_eq_error_iff_isFirstFault
    {sqon : Sqon}
    {failure : Error} :
    sqon.compile registry limit = .error failure ↔
      ∃ address, IsFirstFault (faultAt? registry limit) limit sqon address failure := by
  have exists_of_failed :
      ∀ {failure}, sqon.compile registry limit = .error failure →
        ∃ address, IsFirstFault (faultAt? registry limit) limit sqon address failure := by
    intro failure failed
    rw [compile, map_eq_error_iff] at failed
    have levels : ([] : List Nat).length + limit = limit := Nat.zero_add limit
    exact exists_isFirstFault_of_node levels failed
  refine ⟨exists_of_failed, ?_⟩
  rintro ⟨address, isFirst⟩
  cases compiled : sqon.compile registry limit with
  | error failure' =>
      obtain ⟨address', isFirst'⟩ := exists_of_failed compiled
      rw [(isFirst.unique isFirst').2]
  | ok clause =>
      obtain ⟨node, isFound, faulty⟩ := isFirst.faulty
      rw [faultAt?_of_compile compiled isFound] at faulty
      cases faulty

/-- Addresses are shorter than the tree is deep. -/
theorem length_lt_depth_of_nodeAt?
    {address : List Nat}
    {sqon found : Sqon}
    (isFound : sqon.nodeAt? address = some found) :
    address.length < sqon.depth := by
  induction address generalizing sqon with
  | nil =>
      cases sqon <;> simp [depth]
  | cons position rest inductionHypothesis =>
      cases sqon with
      | leaf condition =>
          simp [nodeAt?] at isFound
      | combine op content =>
          obtain ⟨child, childFound, isFound⟩ := Option.bind_eq_some_iff.mp isFound
          have shallower :=
            depthOf_le_iff.mp (Nat.le_refl _) child (List.mem_of_getElem? childFound)
          have inChild := inductionHypothesis isFound
          rw [depth, List.length_cons]
          omega

/-- A tree that keeps to the limit does not fail for its depth. -/
theorem isTooDeep_of_compile
    {sqon : Sqon}
    {failure : Error}
    (fitting : sqon.depth ≤ limit)
    (failed : sqon.compile registry limit = .error failure) :
    failure.isTooDeep = false := by
  obtain ⟨address, isFirst⟩ := compile_eq_error_iff_isFirstFault.mp failed
  obtain ⟨found, isFound, faulty⟩ := isFirst.faulty
  have shallow := length_lt_depth_of_nodeAt? isFound
  unfold faultAt? at faulty
  rw [if_neg (by omega)] at faulty
  split at faulty
  case h_1 =>
      exact Leaf.isTooDeep_of_fault? faulty
  case h_2 =>
      split at faulty
      · cases faulty
      · cases faulty
        rfl
  all_goals cases faulty

end Outcomes

/--
A tree compiles exactly when no node is deeper than the limit and every node
is in order by itself.  Otherwise it fails with the fault of the first node
that is not, children before their parent and from left to right, at the place
of that node.  The limit has no influence on the filter of a tree that it
admits.
-/
theorem compile_reports_first_fault
    {registry : Registry}
    {sqon : Sqon} :
    (∀ limit,
      (∃ clause, sqon.compile registry limit = .ok clause) ↔
        ∀ address node, sqon.nodeAt? address = some node →
          address.length < limit ∧ node.IsAdmissible registry) ∧
      (∀ limit failure,
        sqon.compile registry limit = .error failure ↔
          ∃ address,
            IsFirstFault (faultAt? registry limit) limit sqon address failure ∧
              failure.place?.map Location.text =
                some ("sqon" ++
                  String.join (address.map fun position =>
                    ".content[" ++ toString position ++ "]"))) ∧
      ∀ limit limit' clause clause',
        sqon.compile registry limit = .ok clause →
        sqon.compile registry limit' = .ok clause' →
        clause = clause' := by
  refine ⟨?_, ?_, ?_⟩
  · intro limit
    constructor
    · rintro ⟨clause, compiled⟩ address node isFound
      exact faultAt?_eq_none_iff.mp (faultAt?_of_compile compiled isFound)
    · intro inOrder
      cases compiled : sqon.compile registry limit with
      | ok clause =>
          exact ⟨clause, rfl⟩
      | error failure =>
          obtain ⟨address, isFirst⟩ := compile_eq_error_iff_isFirstFault.mp compiled
          obtain ⟨node, isFound, faulty⟩ := isFirst.faulty
          rw [faultAt?_eq_none_iff.mpr (inOrder address node isFound)] at faulty
          cases faulty
  · intro limit failure
    rw [compile_eq_error_iff_isFirstFault]
    apply exists_congr
    intro address
    rw [iff_self_and]
    intro isFirst
    obtain ⟨node, -, faulty⟩ := isFirst.faulty
    rw [place?_of_faultAt? faulty, Option.map_some, Location.text_node]
  · intro limit limit' clause clause' compiled compiled'
    obtain ⟨-, pending, compiles, rfl⟩ := compile_eq_ok_iff.mp compiled
    obtain ⟨-, pending', compiles', rfl⟩ := compile_eq_ok_iff.mp compiled'
    rw [compiles.unique compiles']

/-- An operator that does not apply to an age, beside a negation of nothing. -/
def misusedAges : Sqon :=
  .any [
    .all [present "status", contains "donors__age" "4"],
    .combine .not []]

/-- At three levels the operator comes first; at two the first leaf is already too deep. -/
theorem compile_reports_first_fault_of_misusedAges :
    misusedAges.compile caseRegistry 3 =
        .error (.typeMismatch (.filter .contains) "donors__age" .long (.node [0, 1])) ∧
      misusedAges.compile caseRegistry 2 =
        .error (.invalidSqon (.tooDeep 2) (.node [0, 0])) ∧
      (∃ address,
        IsFirstFault (faultAt? caseRegistry 3) 3 misusedAges address
            (.typeMismatch (.filter .contains) "donors__age" .long (.node [0, 1])) ∧
          some "sqon.content[0].content[1]" =
            some ("sqon" ++
              String.join (address.map fun position =>
                ".content[" ++ toString position ++ "]"))) ∧
      ∃ address,
        IsFirstFault (faultAt? caseRegistry 2) 2 misusedAges address
            (.invalidSqon (.tooDeep 2) (.node [0, 0])) ∧
          some "sqon.content[0].content[0]" =
            some ("sqon" ++
              String.join (address.map fun position =>
                ".content[" ++ toString position ++ "]")) := by
  have mismatched :
      misusedAges.compile caseRegistry 3 =
        .error (.typeMismatch (.filter .contains) "donors__age" .long (.node [0, 1])) := by
    cbv
  have tooDeep :
      misusedAges.compile caseRegistry 2 =
        .error (.invalidSqon (.tooDeep 2) (.node [0, 0])) := by
    cbv
  exact ⟨mismatched, tooDeep, (compile_reports_first_fault.2.1 3 _).mp mismatched,
    (compile_reports_first_fault.2.1 2 _).mp tooDeep⟩

end Sqon

end FacetSearch
