import FacetSearch.Proofs.Encoding
import FacetSearch.Proofs.Text.Case
import FacetSearch.Sqon.Reader

namespace FacetSearch

/-!
# The spellings of a filter tree

A tree can be written in many ways: operators go by several names in any case,
a leaf has its operands in the node or in an object under `content`, its field
stands under either of two keys, and what is empty may be left out.  Beside the
spellings of a whole tree stands what a document says by itself, its operands
not looked into, and what is wrong with one that says nothing.
-/

/-- A name that a combinator goes by. -/
def Combinator.IsCalled
    (op : Combinator)
    (name : String) :
    Prop :=
  Text.IsCaseOf op.name name

theorem Combinator.isCalled_iff
    {op : Combinator}
    {name : String} :
    op.IsCalled name ↔ ofName? name = some op := by
  have isLower : Text.lower op.name = op.name := by
    cases op <;> decide
  rw [IsCalled, ← Text.lower_eq_iff isLower, ofName?]
  generalize Text.lower name = lowered
  constructor
  · rintro rfl
    cases op <;> rfl
  · intro found
    split at found <;> cases found <;> rfl

namespace Operator

/-- The accepted names of an operator, in lower case. -/
def aliases : Operator → List String
  | .isIn => ["in"]
  | .notIn => ["not-in", "not_in", "notin"]
  | .between => ["between"]
  | .atLeast => [">=", "gte"]
  | .atMost => ["<=", "lte"]
  | .exists => ["exists"]
  | .missing => ["missing"]
  | .contains => ["contains"]

/-- A name that an operator goes by. -/
def IsCalled
    (op : Operator)
    (name : String) :
    Prop :=
  ∃ accepted ∈ op.aliases, Text.IsCaseOf accepted name

theorem lower_of_mem_aliases
    {op : Operator} :
    ∀ accepted ∈ op.aliases, Text.lower accepted = accepted := by
  cases op <;> decide

theorem isCalled_iff
    {op : Operator}
    {name : String} :
    op.IsCalled name ↔ ofName? name = some op := by
  have lowers : op.IsCalled name ↔ Text.lower name ∈ op.aliases := by
    constructor
    · rintro ⟨accepted, member, spelt⟩
      rwa [(Text.lower_eq_iff (lower_of_mem_aliases accepted member)).mpr spelt]
    · intro member
      exact ⟨_, member, (Text.lower_eq_iff (lower_of_mem_aliases _ member)).mp rfl⟩
  rw [lowers, ofName?]
  generalize Text.lower name = lowered
  constructor
  · intro member
    cases op <;> simp only [aliases, List.mem_cons, List.not_mem_nil, or_false] at member
    case notIn | atLeast | atMost =>
        rcases member with rfl | rfl | rfl <;> rfl
    all_goals
      subst member
      rfl
  · intro found
    split at found <;> cases found <;> simp [aliases]

end Operator

/-- No name is that of a combinator and of an operator. -/
theorem Operator.IsCalled.not_combinator
    {op : Operator}
    {name : String}
    (called : op.IsCalled name) :
    Combinator.ofName? name = none := by
  rw [isCalled_iff, ofName?] at called
  rw [Combinator.ofName?]
  generalize Text.lower name = lowered at called
  split at called <;> first | rfl | cases called

/-- A leaf whose value is only left out where none is needed. -/
def Leaf.IsComplete (condition : Leaf) : Prop :=
  condition.value = .null → condition.op.isPresence = true

namespace Sqon

/-- A tree all of whose leaves are complete. -/
def IsComplete (sqon : Sqon) : Prop :=
  ∀ condition ∈ sqon.leaves, condition.IsComplete

theorem isComplete_leaf_iff
    {condition : Leaf} :
    (leaf condition).IsComplete ↔ condition.IsComplete := by
  simp [IsComplete, leaves]

theorem isComplete_combine_iff
    {op : Combinator}
    {content : List Sqon} :
    (combine op content).IsComplete ↔ ∀ child ∈ content, child.IsComplete := by
  simp only [IsComplete, leaves, mem_leavesOf_iff]
  constructor
  · intro complete child member condition below
    exact complete condition ⟨child, member, below⟩
  · rintro complete condition ⟨child, member, below⟩
    exact complete child member condition below

/-! ## Whole trees -/

/-- The members that give a leaf its field and value. -/
inductive Operands (condition : Leaf) : List (String × Json) → Prop where
  | withValue
      {key : String}
      (isKey : key = "fieldName" ∨ key = "field") :
      Operands condition [(key, .string condition.field), ("value", condition.value)]
  | withoutValue
      {key : String}
      (isKey : key = "fieldName" ∨ key = "field")
      (isPresence : condition.op.isPresence = true)
      (noValue : condition.value = .null) :
      Operands condition [(key, .string condition.field)]

/-- The documents that spell a tree. -/
inductive Spells : Sqon → Json → Prop where
  | combination
      {op : Combinator}
      {name : String}
      {content : List Sqon}
      {documents : List Json}
      {members : List (String × Json)}
      (called : op.IsCalled name)
      (spelt : List.Forall₂ Spells content documents)
      (written : members.Perm [("op", .string name), ("content", .array documents)]) :
      Spells (.combine op content) (.object members)
  | emptyCombination
      {op : Combinator}
      {name : String}
      (called : op.IsCalled name) :
      Spells (.combine op []) (.object [("op", .string name)])
  | flatLeaf
      {condition : Leaf}
      {name : String}
      {operands members : List (String × Json)}
      (called : condition.op.IsCalled name)
      (given : Operands condition operands)
      (written : members.Perm (("op", .string name) :: operands)) :
      Spells (.leaf condition) (.object members)
  | envelopedLeaf
      {condition : Leaf}
      {name : String}
      {operands inner members : List (String × Json)}
      (called : condition.op.IsCalled name)
      (given : Operands condition operands)
      (writtenInside : inner.Perm operands)
      (written : members.Perm [("op", .string name), ("content", .object inner)]) :
      Spells (.leaf condition) (.object members)

/-! ## Single nodes -/

/-- A node by itself: a leaf, or a combinator with the documents of its operands. -/
inductive Head where
  | leaf (condition : Leaf)
  | combine (op : Combinator) (documents : List Json)

/-- The members among which a leaf has its field and value. -/
inductive HasOperands (members : List (String × Json)) : List (String × Json) → Prop where
  | flat
      (bare : Entries.lookup? "content" members = none) :
      HasOperands members members
  | enveloped
      {operands : List (String × Json)}
      (content : Entries.lookup? "content" members = some (.object operands)) :
      HasOperands members operands

/-- What stands under the key of the field, the longer key before the shorter one. -/
def fieldOf? (operands : List (String × Json)) : Option Json :=
  (Entries.lookup? "fieldName" operands).or (Entries.lookup? "field" operands)

/-- The value of a leaf, `null` when there is none. -/
def valueOf (operands : List (String × Json)) : Json :=
  (Entries.lookup? "value" operands).getD .null

/-- What a document says by itself. -/
inductive Says : Json → Head → Prop where
  | combination
      {members : List (String × Json)}
      {name : String}
      {op : Combinator}
      {documents : List Json}
      (named : Entries.lookup? "op" members = some (.string name))
      (called : op.IsCalled name)
      (content : Entries.lookup? "content" members = some (.array documents)) :
      Says (.object members) (.combine op documents)
  | emptyCombination
      {members : List (String × Json)}
      {name : String}
      {op : Combinator}
      (named : Entries.lookup? "op" members = some (.string name))
      (called : op.IsCalled name)
      (bare : Entries.lookup? "content" members = none) :
      Says (.object members) (.combine op [])
  | leaf
      {members operands : List (String × Json)}
      {name : String}
      {condition : Leaf}
      (named : Entries.lookup? "op" members = some (.string name))
      (called : condition.op.IsCalled name)
      (given : HasOperands members operands)
      (onField : fieldOf? operands = some (.string condition.field))
      (takes : valueOf operands = condition.value)
      (complete : condition.IsComplete) :
      Says (.object members) (.leaf condition)

/-- What is wrong with a document by itself, at a place. -/
inductive Misspelt (place : Location) : Json → Error → Prop where
  | notAnObject
      {document : Json}
      (noObject : document.members? = none) :
      Misspelt place document (.invalidSqon .notAnObject place)
  | missingOp
      {members : List (String × Json)}
      (unnamed : Entries.lookup? "op" members = none) :
      Misspelt place (.object members) (.invalidSqon .missingOp place)
  | opNotString
      {members : List (String × Json)}
      {op : Json}
      (named : Entries.lookup? "op" members = some op)
      (noText : op.text? = none) :
      Misspelt place (.object members) (.invalidSqon .opNotString place)
  | unsupportedOperator
      {members : List (String × Json)}
      {name : String}
      (named : Entries.lookup? "op" members = some (.string name))
      (noCombinator : ∀ op : Combinator, ¬ op.IsCalled name)
      (noOperator : ∀ op : Operator, ¬ op.IsCalled name) :
      Misspelt place (.object members) (.unsupportedOperator name place)
  | contentNotArray
      {members : List (String × Json)}
      {name : String}
      {op : Combinator}
      {content : Json}
      (named : Entries.lookup? "op" members = some (.string name))
      (called : op.IsCalled name)
      (found : Entries.lookup? "content" members = some content)
      (noArray : content.items? = none) :
      Misspelt place (.object members) (.invalidSqon (.contentNotArray op) place)
  | contentNotObject
      {members : List (String × Json)}
      {name : String}
      {op : Operator}
      {content : Json}
      (named : Entries.lookup? "op" members = some (.string name))
      (called : op.IsCalled name)
      (found : Entries.lookup? "content" members = some content)
      (noObject : content.members? = none) :
      Misspelt place (.object members) (.invalidSqon (.contentNotObject name) place)
  | missingField
      {members operands : List (String × Json)}
      {name : String}
      {op : Operator}
      (named : Entries.lookup? "op" members = some (.string name))
      (called : op.IsCalled name)
      (given : HasOperands members operands)
      (noField : fieldOf? operands = none) :
      Misspelt place (.object members) (.invalidSqon (.missingField name) place)
  | fieldNotString
      {members operands : List (String × Json)}
      {name : String}
      {op : Operator}
      {field : Json}
      (named : Entries.lookup? "op" members = some (.string name))
      (called : op.IsCalled name)
      (given : HasOperands members operands)
      (onField : fieldOf? operands = some field)
      (noText : field.text? = none) :
      Misspelt place (.object members) (.invalidSqon .fieldNotString place)
  | missingValue
      {members operands : List (String × Json)}
      {name field : String}
      {op : Operator}
      (named : Entries.lookup? "op" members = some (.string name))
      (called : op.IsCalled name)
      (given : HasOperands members operands)
      (onField : fieldOf? operands = some (.string field))
      (noValue : valueOf operands = .null)
      (needed : op.isPresence = false) :
      Misspelt place (.object members) (.invalidSqon (.missingValue name) place)

/-! ## Reading a single node -/

namespace Reader

variable {limit remaining : Nat} {place : Location}

section Named

variable {members operands : List (String × Json)} {name : String}
  (named : Entries.lookup? "op" members = some (.string name))

include named

/-- A node under the name of a combinator is read by its content. -/
theorem node_of_combinator
    {op : Combinator}
    (called : op.IsCalled name) :
    node limit (remaining + 1) place (.object members) =
      match Entries.lookup? "content" members with
      | none => .ok (.combine op [])
      | some content =>
          match content.items? with
          | none => fault place (.contentNotArray op)
          | some documents =>
              (Indexed.traverse
                (fun position child => node limit remaining (place.child position) child)
                documents).map (.combine op) := by
  have isCombinator := Combinator.isCalled_iff.mp called
  cases found : Entries.lookup? "content" members with
  | none =>
      simp only [node, Json.members?, named, Json.text?, isCombinator, found]
  | some content =>
      cases array : content.items? <;>
        simp only [node, Json.members?, named, Json.text?, isCombinator, found, array]

/-- A node under any other name is read as a leaf. -/
theorem node_of_noCombinator
    (noCombinator : Combinator.ofName? name = none) :
    node limit (remaining + 1) place (.object members) = leaf name place members := by
  simp only [node, Json.members?, named, Json.text?, noCombinator]

omit named in
/-- A leaf is read by its operands. -/
theorem leaf_of_operands
    {op : Operator}
    (called : op.IsCalled name)
    (given : HasOperands members operands) :
    leaf name place members =
      match fieldOf? operands with
      | none => fault place (.missingField name)
      | some field =>
          match field.text? with
          | none => fault place .fieldNotString
          | some field =>
              if (valueOf operands).isNull && !op.isPresence then
                fault place (.missingValue name)
              else
                .ok (.leaf { op, field, value := valueOf operands }) := by
  cases given with
  | flat bare =>
      simp only [leaf, Operator.isCalled_iff.mp called, bare]
      rfl
  | enveloped content =>
      simp only [leaf, Operator.isCalled_iff.mp called, content, Json.members?]
      rfl

end Named

variable {document : Json}

theorem node_of_says_leaf
    {condition : Leaf}
    (said : Says document (.leaf condition)) :
    node limit (remaining + 1) place document = .ok (.leaf condition) := by
  cases said with
  | leaf named called given onField takes complete =>
      have notNeeded : ¬ ((condition.value.isNull && !condition.op.isPresence) = true) := by
        cases value : condition.value <;> simp [Json.isNull]
        exact complete value
      rw [node_of_noCombinator named called.not_combinator, leaf_of_operands called given, onField,
        takes]
      exact if_neg notNeeded

theorem node_of_says_combine
    {op : Combinator}
    {documents : List Json}
    (said : Says document (.combine op documents)) :
    node limit (remaining + 1) place document =
      (Indexed.traverse
        (fun position child => node limit remaining (place.child position) child)
        documents).map (.combine op) := by
  cases said with
  | combination named called content =>
      rw [node_of_combinator named called, content]
      rfl
  | emptyCombination named called bare =>
      rw [node_of_combinator named called, bare]
      rfl

theorem node_of_misspelt
    {failure : Error}
    (misspelt : Misspelt place document failure) :
    node limit (remaining + 1) place document = .error failure := by
  cases misspelt with
  | notAnObject noObject =>
      simp only [node, fault, noObject]
  | missingOp unnamed =>
      simp only [node, fault, Json.members?, unnamed]
  | opNotString named noText =>
      simp only [node, fault, Json.members?, named, noText]
  | @unsupportedOperator _ name named noCombinator noOperator =>
      have noneOfThem : Combinator.ofName? name = none := by
        rw [Option.eq_none_iff_forall_ne_some]
        intro op called
        exact noCombinator op (Combinator.isCalled_iff.mpr called)
      have noneEither : Operator.ofName? name = none := by
        rw [Option.eq_none_iff_forall_ne_some]
        intro op called
        exact noOperator op (Operator.isCalled_iff.mpr called)
      rw [node_of_noCombinator named noneOfThem, leaf, noneEither]
  | contentNotArray named called found noArray =>
      rw [node_of_combinator named called, found]
      simp only [noArray, fault]
  | contentNotObject named called found noObject =>
      rw [node_of_noCombinator named called.not_combinator]
      simp only [leaf, Operator.isCalled_iff.mp called, found, noObject, fault]
  | missingField named called given noField =>
      rw [node_of_noCombinator named called.not_combinator, leaf_of_operands called given, noField]
      rfl
  | fieldNotString named called given onField noText =>
      rw [node_of_noCombinator named called.not_combinator, leaf_of_operands called given, onField]
      simp only [noText, fault]
  | missingValue named called given onField noValue needed =>
      rw [node_of_noCombinator named called.not_combinator, leaf_of_operands called given, onField,
        noValue, needed]
      rfl

end Reader

/-! ## Every document says something or is misspelt -/

section Document

variable {document : Json} {place : Location} {failure : Error}

/-- A leaf that has its operands is complete, or one of them is not in order. -/
theorem exists_says_or_misspelt_of_operands
    {members operands : List (String × Json)}
    {name : String}
    {op : Operator}
    (named : Entries.lookup? "op" members = some (.string name))
    (called : op.IsCalled name)
    (given : HasOperands members operands) :
    (∃ head, Says (.object members) head) ∨ ∃ failure, Misspelt place (.object members) failure := by
  cases onField : fieldOf? operands with
  | none =>
      exact .inr ⟨_, .missingField named called given onField⟩
  | some field =>
      cases text : field.text? with
      | none =>
          exact .inr ⟨_, .fieldNotString named called given onField text⟩
      | some field =>
          obtain rfl := Json.text?_eq_some_iff.mp text
          by_cases complete : valueOf operands = .null → op.isPresence = true
          · exact .inl ⟨.leaf { op, field, value := valueOf operands },
              .leaf named called given onField rfl complete⟩
          · obtain ⟨noValue, needed⟩ := Classical.not_imp.mp complete
            exact .inr ⟨_, .missingValue named called given onField noValue
              (Bool.eq_false_iff.mpr needed)⟩

theorem exists_says_or_misspelt
    (place : Location)
    (document : Json) :
    (∃ head, Says document head) ∨ ∃ failure, Misspelt place document failure := by
  cases object : document.members? with
  | none =>
      exact .inr ⟨_, .notAnObject object⟩
  | some members =>
      obtain rfl := Json.members?_eq_some_iff.mp object
      cases named : Entries.lookup? "op" members with
      | none =>
          exact .inr ⟨_, .missingOp named⟩
      | some op =>
          cases text : op.text? with
          | none =>
              exact .inr ⟨_, .opNotString named text⟩
          | some name =>
              obtain rfl := Json.text?_eq_some_iff.mp text
              by_cases isCombinator : ∃ op : Combinator, op.IsCalled name
              · obtain ⟨op, called⟩ := isCombinator
                cases found : Entries.lookup? "content" members with
                | none =>
                    exact .inl ⟨_, .emptyCombination named called found⟩
                | some content =>
                    cases array : content.items? with
                    | none =>
                        exact .inr ⟨_, .contentNotArray named called found array⟩
                    | some documents =>
                        obtain rfl := Json.items?_eq_some_iff.mp array
                        exact .inl ⟨_, .combination named called found⟩
              · by_cases isOperator : ∃ op : Operator, op.IsCalled name
                · obtain ⟨op, called⟩ := isOperator
                  cases found : Entries.lookup? "content" members with
                  | none =>
                      exact exists_says_or_misspelt_of_operands named called (.flat found)
                  | some content =>
                      cases inside : content.members? with
                      | none =>
                          exact .inr ⟨_, .contentNotObject named called found inside⟩
                      | some operands =>
                          obtain rfl := Json.members?_eq_some_iff.mp inside
                          exact exists_says_or_misspelt_of_operands named called (.enveloped found)
                · exact .inr ⟨_, .unsupportedOperator named (not_exists.mp isCombinator)
                    (not_exists.mp isOperator)⟩

/-- What is wrong with a document by itself is never its depth. -/
theorem Misspelt.ne_tooDeep
    (misspelt : Misspelt place document failure)
    (limit : Nat)
    (place' : Location) :
    failure ≠ .invalidSqon (.tooDeep limit) place' := by
  cases misspelt <;> simp

theorem Misspelt.place?
    (misspelt : Misspelt place document failure) :
    failure.place? = some place := by
  cases misspelt <;> rfl

theorem Misspelt.unique
    {failure' : Error}
    (misspelt : Misspelt place document failure)
    (misspelt' : Misspelt place document failure') :
    failure = failure' := by
  have read : Reader.node 0 1 place document = .error failure := Reader.node_of_misspelt misspelt
  rw [Reader.node_of_misspelt misspelt'] at read
  exact (Except.error.inj read).symm

/-- A document that says something is not misspelt. -/
theorem Says.not_misspelt
    {head : Head}
    (said : Says document head) :
    ¬ Misspelt place document failure := by
  intro misspelt
  have read : Reader.node 0 1 place document = .error failure := Reader.node_of_misspelt misspelt
  -- Above the limit only an operand fails, and for its depth.
  cases head with
  | leaf condition =>
      rw [Reader.node_of_says_leaf said] at read
      cases read
  | combine op documents =>
      rw [Reader.node_of_says_combine said] at read
      cases documents with
      | nil =>
          cases read
      | cons child rest =>
          exact misspelt.ne_tooDeep _ _ (Except.error.inj read).symm

theorem Says.isComplete
    {condition : Leaf}
    (said : Says document (.leaf condition)) :
    condition.IsComplete := by
  cases said
  assumption

theorem Says.documents_unique
    {op op' : Combinator}
    {documents documents' : List Json}
    (said : Says document (.combine op documents))
    (said' : Says document (.combine op' documents')) :
    documents = documents' := by
  cases said <;> cases said' <;> simp_all

end Document

end Sqon

end FacetSearch
