import FacetSearch.Proofs.Indexed
import FacetSearch.Proofs.Sqon.FirstFault
import FacetSearch.Proofs.Sqon.Spelling
import Mathlib.Data.List.Lex

namespace FacetSearch.Sqon

/-!
# Why a document is rejected

A document has a node for each of the documents that are nested as operands,
found at the positions on the way down to it.  A node is faulty when it is too
deep, whatever it is, or when it is misspelt by itself.  A document is read when
none of its nodes is faulty, and otherwise fails with the fault of the first of
them, parents before their operands and from left to right: the order of the
addresses.
-/

/-- The document of the node at an address. -/
inductive IsNodeAt : List Nat → Json → Json → Prop where
  | root
      {document : Json} :
      IsNodeAt [] document document
  | operand
      {position : Nat}
      {rest : List Nat}
      {op : Combinator}
      {document child node : Json}
      {documents : List Json}
      (said : Says document (.combine op documents))
      (found : documents[position]? = some child)
      (isNode : IsNodeAt rest child node) :
      IsNodeAt (position :: rest) document node

/-- What is wrong with the node at an address. -/
inductive IsFaulty
    (limit : Nat)
    (address : List Nat)
    (node : Json) :
    Error → Prop where
  | tooDeep
      (deep : limit ≤ address.length) :
      IsFaulty limit address node (.invalidSqon (.tooDeep limit) (.node address))
  | misspelt
      {failure : Error}
      (shallow : address.length < limit)
      (misspelt : Misspelt (.node address) node failure) :
      IsFaulty limit address node failure

/-- The first node of a document that something is wrong with, and what it is. -/
structure IsFirstFaulty
    (faulty : List Nat → Json → Error → Prop)
    (document : Json)
    (address : List Nat)
    (failure : Error) : Prop where
  isFaulty : ∃ node, IsNodeAt address document node ∧ faulty address node failure
  first :
    ∀ earlier node, IsNodeAt earlier document node → earlier < address →
      ∀ failure', ¬ faulty earlier node failure'

theorem IsNodeAt.unique
    {address : List Nat}
    {document node node' : Json}
    (isNode : IsNodeAt address document node)
    (isNode' : IsNodeAt address document node') :
    node = node' := by
  induction isNode with
  | root =>
      cases isNode'
      rfl
  | operand said found _ inductionHypothesis =>
      cases isNode' with
      | operand said' found' isNode' =>
          obtain rfl := said.documents_unique said'
          obtain rfl := Option.some.inj (found.symm.trans found')
          exact inductionHypothesis isNode'

namespace IsFaulty

variable {limit : Nat} {address : List Nat} {node : Json} {failure failure' : Error}

theorem unique
    (isFaulty : IsFaulty limit address node failure)
    (isFaulty' : IsFaulty limit address node failure') :
    failure = failure' := by
  cases isFaulty with
  | tooDeep deep =>
      cases isFaulty' with
      | tooDeep =>
          rfl
      | misspelt shallow =>
          omega
  | misspelt shallow misspelt =>
      cases isFaulty' with
      | tooDeep deep =>
          omega
      | misspelt _ misspelt' =>
          exact misspelt.unique misspelt'

/-- A fault is reported at the place of its node. -/
theorem place?_eq
    (isFaulty : IsFaulty limit address node failure) :
    failure.place? = some (.node address) := by
  cases isFaulty with
  | tooDeep =>
      rfl
  | misspelt _ misspelt =>
      exact misspelt.place?

end IsFaulty

namespace IsFirstFaulty

variable {faulty : List Nat → Json → Error → Prop} {document : Json} {address : List Nat}
  {failure : Error}

/-- Nothing comes before the root. -/
theorem root
    (isFaulty : faulty [] document failure) :
    IsFirstFaulty faulty document [] failure where
  isFaulty := ⟨document, .root, isFaulty⟩
  first earlier _ _ before := absurd before (List.not_lt_nil earlier)

/-- What comes first in an operand does in the whole, if the root and the operands before are sound. -/
theorem operand
    {op : Combinator}
    {documents : List Json}
    {position : Nat}
    {child : Json}
    (said : Says document (.combine op documents))
    (found : documents[position]? = some child)
    (rootSound : ∀ failure', ¬ faulty [] document failure')
    (leftSound :
      ∀ left < position, ∀ sibling, documents[left]? = some sibling →
        ∀ rest node, IsNodeAt rest sibling node →
          ∀ failure', ¬ faulty (left :: rest) node failure')
    (isFirst : IsFirstFaulty (fun rest => faulty (position :: rest)) child address failure) :
    IsFirstFaulty faulty document (position :: address) failure := by
  obtain ⟨⟨node, isNode, isFaulty⟩, first⟩ := isFirst
  refine ⟨⟨node, .operand said found isNode, isFaulty⟩, ?_⟩
  intro earlier node' isNode' before
  cases isNode' with
  | root =>
      exact rootSound
  | @operand left rest _ _ _ _ _ said' found' isNode' =>
      obtain rfl := said.documents_unique said'
      rcases List.cons_lt_cons_iff.mp before with isLeft | ⟨rfl, inside⟩
      · exact leftSound left isLeft _ found' rest node' isNode'
      · obtain rfl := Option.some.inj (found.symm.trans found')
        exact first rest node' isNode' inside

theorem unique
    {limit : Nat}
    {address' : List Nat}
    {failure' : Error}
    (isFirst : IsFirstFaulty (IsFaulty limit) document address failure)
    (isFirst' : IsFirstFaulty (IsFaulty limit) document address' failure') :
    failure = failure' := by
  obtain ⟨node, isNode, isFaulty⟩ := isFirst.isFaulty
  obtain ⟨node', isNode', isFaulty'⟩ := isFirst'.isFaulty
  rcases lt_trichotomy address address' with before | rfl | behind
  · exact absurd isFaulty (isFirst'.first address node isNode before failure)
  · obtain rfl := isNode.unique isNode'
    exact isFaulty.unique isFaulty'
  · exact absurd isFaulty' (isFirst.first address' node' isNode' behind failure')

end IsFirstFaulty

namespace Reader

variable {limit remaining : Nat} {steps : List Nat} {document : Json} {failure : Error}

/-- In a document that is read no node is faulty. -/
theorem not_isFaulty_of_node
    {sqon : Sqon}
    {address : List Nat}
    {found : Json}
    (levels : steps.length + remaining = limit)
    (read : node limit remaining (.node steps) document = .ok sqon)
    (isNode : IsNodeAt address document found) :
    ¬ IsFaulty limit (steps ++ address) found failure := by
  induction isNode generalizing steps remaining sqon with
  | root =>
      rw [List.append_nil]
      cases remaining with
      | zero =>
          cases read
      | succ remaining =>
          rintro (deep | ⟨-, misspelt⟩)
          · omega
          · rw [node_of_misspelt misspelt] at read
            cases read
  | @operand position rest op _ _ _ _ said found _ inductionHypothesis =>
      cases remaining with
      | zero =>
          cases read
      | succ remaining =>
          rw [node_of_says_combine said] at read
          obtain ⟨content, traversed, -⟩ := Compiler.map_eq_ok_iff.mp read
          obtain ⟨child, readChild⟩ := Indexed.exists_result_of_traverseFrom traversed found
          rw [Nat.zero_add] at readChild
          have levelsBelow : (steps ++ [position]).length + remaining = limit := by
            simp
            omega
          have sound := inductionHypothesis levelsBelow readChild
          rwa [List.append_assoc] at sound

/-- A document that is not read has a first faulty node, and fails with its fault. -/
theorem exists_isFirstFaulty_of_node
    (levels : steps.length + remaining = limit)
    (failed : node limit remaining (.node steps) document = .error failure) :
    ∃ address,
      IsFirstFaulty (fun address => IsFaulty limit (steps ++ address)) document address
        failure := by
  induction remaining generalizing steps document with
  | zero =>
      obtain rfl := Except.error.inj failed
      refine ⟨[], .root ?_⟩
      rw [List.append_nil]
      exact .tooDeep (by omega)
  | succ remaining inductionHypothesis =>
      have shallow : steps.length < limit := by omega
      rcases exists_says_or_misspelt (.node steps) document with ⟨head, said⟩ | ⟨fault, misspelt⟩
      case inr =>
          obtain rfl : fault = failure :=
            Except.error.inj ((node_of_misspelt misspelt).symm.trans failed)
          refine ⟨[], .root ?_⟩
          rw [List.append_nil]
          exact .misspelt shallow misspelt
      case inl =>
          cases head with
          | leaf condition =>
              rw [node_of_says_leaf said] at failed
              cases failed
          | combine op documents =>
              rw [node_of_says_combine said] at failed
              obtain ⟨position, child, found, childFails, before⟩ :=
                Indexed.exists_failing_item (Compiler.map_eq_error_iff.mp failed)
              simp only [Nat.zero_add] at childFails before
              have levelsBelow (position : Nat) :
                  (steps ++ [position]).length + remaining = limit := by
                simp
                omega
              obtain ⟨address, isFirst⟩ := inductionHypothesis (levelsBelow position) childFails
              simp only [List.append_assoc, List.singleton_append] at isFirst
              refine ⟨position :: address, isFirst.operand said found ?rootSound ?leftSound⟩
              -- The root says something, and above the limit only what is misspelt is faulty.
              case rootSound =>
                  rw [List.append_nil]
                  rintro failure' (deep | ⟨-, misspelt⟩)
                  · omega
                  · exact said.not_misspelt misspelt
              -- The operands before the failing one were read.
              case leftSound =>
                  intro left isLeft sibling siblingFound rest node isNode failure'
                  obtain ⟨result, read⟩ := before left isLeft sibling siblingFound
                  have sound : ¬ IsFaulty limit (steps ++ [left] ++ rest) node failure' :=
                    not_isFaulty_of_node (levelsBelow left) read isNode
                  rwa [List.append_assoc] at sound

end Reader

/-- A document is rejected with the fault of its first faulty node, and for nothing else. -/
theorem ofJson_eq_error_iff
    {limit : Nat}
    {document : Json}
    {failure : Error} :
    ofJson limit document = .error failure ↔
      ∃ address, IsFirstFaulty (IsFaulty limit) document address failure := by
  have levels : ([] : List Nat).length + limit = limit := Nat.zero_add limit
  constructor
  · intro failed
    exact Reader.exists_isFirstFaulty_of_node levels failed
  · rintro ⟨address, isFirst⟩
    cases read : ofJson limit document with
    | ok sqon =>
        obtain ⟨node, isNode, isFaulty⟩ := isFirst.isFaulty
        exact absurd isFaulty (Reader.not_isFaulty_of_node levels read isNode)
    | error failure' =>
        obtain ⟨address', isFirst'⟩ := Reader.exists_isFirstFaulty_of_node levels read
        rw [isFirst'.unique isFirst]

end FacetSearch.Sqon
