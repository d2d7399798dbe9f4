import FacetSearch.Proofs.Indexed
import FacetSearch.Proofs.Sqon.Spelling

namespace FacetSearch.Sqon

/-!
# Members that nobody looks at

A combinator is told by `op` and `content`, a leaf by `op` and its operands.
Other members, second members of a name and a shorter field key beside the
longer one are not looked at, so dropping them changes neither the tree that is
read nor the error.
-/

/-- The keys under which the operands of a leaf are found. -/
def operandKeys (operands : List (String × Json)) : List String :=
  [if (Entries.lookup? "fieldName" operands).isSome then "fieldName" else "field", "value"]

/-- An object of operands without its other members. -/
def pickOperands : Json → Json
  | .object operands => .object (Entries.pick (operandKeys operands) operands)
  | other => other

/-- The combinator that a node goes by, if it goes by one. -/
def combinatorOf? (members : List (String × Json)) : Option Combinator :=
  ((Entries.lookup? "op" members).bind Json.text?).bind Combinator.ofName?

mutual
/-- A document without the members that reading does not look at. -/
def withoutIgnored : Json → Json
  | .object members =>
      .object
        (if (combinatorOf? members).isSome then
          Entries.pick ["op", "content"] (withoutIgnoredBelow members)
        else if (Entries.lookup? "content" members).isSome then
          Entries.pick ["op", "content"] (members.map (Prod.map id pickOperands))
        else
          Entries.pick ("op" :: operandKeys members) members)
  | other => other

/-- Members with the documents of operands under them cleared. -/
def withoutIgnoredBelow : List (String × Json) → List (String × Json)
  | [] => []
  | (name, value) :: rest => (name, withoutIgnoredInside value) :: withoutIgnoredBelow rest

/-- The content of a combinator with the documents of its operands cleared. -/
def withoutIgnoredInside : Json → Json
  | .array documents => .array (withoutIgnoredEach documents)
  | other => other

/-- Clear every document of a list. -/
def withoutIgnoredEach : List Json → List Json
  | [] => []
  | document :: rest => withoutIgnored document :: withoutIgnoredEach rest
end

theorem withoutIgnoredEach_eq_map
    (documents : List Json) :
    withoutIgnoredEach documents = documents.map withoutIgnored := by
  induction documents with
  | nil =>
      rfl
  | cons document rest inductionHypothesis =>
      rw [withoutIgnoredEach, inductionHypothesis, List.map_cons]

theorem withoutIgnoredBelow_eq_map
    (members : List (String × Json)) :
    withoutIgnoredBelow members = members.map (Prod.map id withoutIgnoredInside) := by
  induction members with
  | nil =>
      rfl
  | cons member rest inductionHypothesis =>
      obtain ⟨name, value⟩ := member
      rw [withoutIgnoredBelow, inductionHypothesis]
      rfl

section Shapes

variable {members : List (String × Json)}

/-- A combinator keeps its name and its content, with the documents in it cleared. -/
theorem withoutIgnored_of_combinator
    {op : Combinator}
    (byName : combinatorOf? members = some op) :
    withoutIgnored (.object members) =
      .object
        (Entries.pick ["op", "content"] (members.map (Prod.map id withoutIgnoredInside))) := by
  rw [withoutIgnored, byName, Option.isSome_some, if_pos rfl, withoutIgnoredBelow_eq_map]

/-- An enveloped leaf keeps its name and its envelope, with its operands picked. -/
theorem withoutIgnored_of_content
    {content : Json}
    (noCombinator : combinatorOf? members = none)
    (found : Entries.lookup? "content" members = some content) :
    withoutIgnored (.object members) =
      .object (Entries.pick ["op", "content"] (members.map (Prod.map id pickOperands))) := by
  simp [withoutIgnored, noCombinator, found]

/-- A flat leaf keeps its name and its operands. -/
theorem withoutIgnored_of_bare
    (noCombinator : combinatorOf? members = none)
    (bare : Entries.lookup? "content" members = none) :
    withoutIgnored (.object members) =
      .object (Entries.pick ("op" :: operandKeys members) members) := by
  simp [withoutIgnored, noCombinator, bare]

end Shapes

theorem items?_withoutIgnoredInside
    (content : Json) :
    (withoutIgnoredInside content).items? = content.items?.map (List.map withoutIgnored) := by
  cases content <;> simp [withoutIgnoredInside, Json.items?, withoutIgnoredEach_eq_map]

theorem text?_pickOperands
    (value : Json) :
    (pickOperands value).text? = value.text? := by
  cases value <;> rfl

theorem combinatorOf?_eq_some_iff
    {members : List (String × Json)}
    {op : Combinator} :
    combinatorOf? members = some op ↔
      ∃ name, Entries.lookup? "op" members = some (.string name) ∧ op.IsCalled name := by
  simp only [combinatorOf?, Option.bind_eq_some_iff, Json.text?_eq_some_iff,
    Combinator.isCalled_iff]
  constructor
  · rintro ⟨name, ⟨_, named, rfl⟩, called⟩
    exact ⟨name, named, called⟩
  · rintro ⟨name, named, called⟩
    exact ⟨name, ⟨_, named, rfl⟩, called⟩

section Picked

variable {operands : List (String × Json)} {keys : List String}

/-- Among the keys that are looked for the field is found as before. -/
theorem fieldOf?_pick
    (picked : ∀ key, key = "fieldName" ∨ key = "field" → (key ∈ keys ↔ key ∈ operandKeys operands)) :
    fieldOf? (Entries.pick keys operands) = fieldOf? operands := by
  rw [fieldOf?, Entries.lookup?_pick, Entries.lookup?_pick, fieldOf?]
  cases found : Entries.lookup? "fieldName" operands <;>
    simp [picked, operandKeys, found]

theorem valueOf_pick
    (picked : "value" ∈ keys) :
    valueOf (Entries.pick keys operands) = valueOf operands := by
  rw [valueOf, Entries.lookup?_pick, if_pos picked, valueOf]

end Picked

/-- What a leaf takes from the members of its node: what stands for its field, and its value. -/
def takings? (members : List (String × Json)) : Option (Option Json × Json) :=
  let operands? :=
    match Entries.lookup? "content" members with
    | none => some members
    | some content => content.members?
  operands?.map fun operands => (fieldOf? operands, valueOf operands)

theorem exists_content_of_takings?
    {members : List (String × Json)}
    (taken : takings? members = none) :
    ∃ content, Entries.lookup? "content" members = some content ∧ content.members? = none := by
  cases found : Entries.lookup? "content" members with
  | none =>
      simp [takings?, found] at taken
  | some content =>
      exact ⟨content, rfl, by simpa [takings?, found] using taken⟩

theorem exists_operands_of_takings?
    {members : List (String × Json)}
    {taking : Option Json × Json}
    (taken : takings? members = some taking) :
    ∃ operands, HasOperands members operands ∧ (fieldOf? operands, valueOf operands) = taking := by
  cases found : Entries.lookup? "content" members with
  | none =>
      exact ⟨members, .flat found, by simpa [takings?, found] using taken⟩
  | some content =>
      obtain ⟨operands, inside, taken⟩ : ∃ operands, content.members? = some operands ∧
          (fieldOf? operands, valueOf operands) = taking := by
        simpa [takings?, found] using taken
      obtain rfl := Json.members?_eq_some_iff.mp inside
      exact ⟨operands, .enveloped found, taken⟩

/-- Operands are taken from picked members as from all of them. -/
theorem takings?_of_content
    {members : List (String × Json)}
    {content : Json}
    (found : Entries.lookup? "content" members = some content) :
    takings? (Entries.pick ["op", "content"] (members.map (Prod.map id pickOperands))) =
      takings? members := by
  have picked :
      Entries.lookup? "content"
          (Entries.pick ["op", "content"] (members.map (Prod.map id pickOperands))) =
        some (pickOperands content) := by
    rw [Entries.lookup?_pick, if_pos (by simp), Entries.lookup?_map, found, Option.map_some]
  simp only [takings?, picked, found]
  cases content with
  | object operands =>
      simp [pickOperands, Json.members?, fieldOf?_pick, valueOf_pick, operandKeys]
  | _ =>
      rfl

theorem takings?_of_bare
    {members : List (String × Json)}
    (bare : Entries.lookup? "content" members = none) :
    takings? (Entries.pick ("op" :: operandKeys members) members) = takings? members := by
  have picked :
      Entries.lookup? "content" (Entries.pick ("op" :: operandKeys members) members) = none := by
    rw [Entries.lookup?_pick, bare, ite_self]
  have onField : fieldOf? (Entries.pick ("op" :: operandKeys members) members) = fieldOf? members := by
    apply fieldOf?_pick
    rintro key (rfl | rfl) <;> simp
  have taken : valueOf (Entries.pick ("op" :: operandKeys members) members) = valueOf members :=
    valueOf_pick (by simp [operandKeys])
  simp only [takings?, picked, bare, Option.map_some, onField, taken]

namespace Reader

variable {limit remaining : Nat} {place : Location}

/-- Leaves of one name that take the same are read alike. -/
theorem leaf_congr
    {name : String}
    {members members' : List (String × Json)}
    (same : takings? members = takings? members') :
    leaf name place members = leaf name place members' := by
  cases byName : Operator.ofName? name with
  | none =>
      simp only [leaf, byName]
  | some op =>
      cases taken : takings? members with
      | none =>
          obtain ⟨content, found, noObject⟩ := exists_content_of_takings? taken
          obtain ⟨content', found', noObject'⟩ := exists_content_of_takings? (same ▸ taken)
          simp only [leaf, byName, found, noObject, found', noObject']
      | some taking =>
          obtain ⟨operands, given, rfl⟩ := exists_operands_of_takings? taken
          obtain ⟨operands', given', alike⟩ := exists_operands_of_takings? (same ▸ taken)
          obtain ⟨sameField, sameValue⟩ := Prod.mk.inj alike
          have called := Operator.isCalled_iff.mpr byName
          rw [leaf_of_operands called given, leaf_of_operands called given', sameField, sameValue]

/-- Nodes under the same name, not that of a combinator, are read alike when they take the same. -/
theorem node_congr_of_leaf
    {members members' : List (String × Json)}
    {change : Json → Json}
    (sameText : ∀ op, (change op).text? = op.text?)
    (sameOp : Entries.lookup? "op" members' = (Entries.lookup? "op" members).map change)
    (noCombinator : combinatorOf? members = none)
    (same : takings? members' = takings? members) :
    node limit (remaining + 1) place (.object members') =
      node limit (remaining + 1) place (.object members) := by
  cases named : Entries.lookup? "op" members with
  | none =>
      rw [named] at sameOp
      simp only [node, Json.members?, named, sameOp, Option.map_none]
  | some op =>
      rw [named, Option.map_some] at sameOp
      cases text : op.text? with
      | none =>
          simp only [node, Json.members?, named, sameOp, sameText, text]
      | some name =>
          -- A name is a text, and texts are left as they are.
          have sameName := Json.text?_eq_some_iff.mp ((sameText op).trans text)
          obtain rfl := Json.text?_eq_some_iff.mp text
          rw [sameName] at sameOp
          have isLeaf : Combinator.ofName? name = none := by
            simpa [combinatorOf?, named, Json.text?] using noCombinator
          rw [node_of_noCombinator sameOp isLeaf, node_of_noCombinator named isLeaf,
            leaf_congr same]

/-- Members that nobody looks at make no difference. -/
theorem node_withoutIgnored
    (document : Json) :
    node limit remaining place (withoutIgnored document) = node limit remaining place document := by
  induction remaining generalizing place document with
  | zero =>
      rfl
  | succ remaining inductionHypothesis =>
      cases document with
      | object members =>
          cases byName : combinatorOf? members with
          | some op =>
              obtain ⟨name, named, called⟩ := combinatorOf?_eq_some_iff.mp byName
              have sameOp :
                  Entries.lookup? "op"
                      (Entries.pick ["op", "content"]
                        (members.map (Prod.map id withoutIgnoredInside))) =
                    some (.string name) := by
                simp [Entries.lookup?_pick, Entries.lookup?_map, named, withoutIgnoredInside]
              rw [withoutIgnored_of_combinator byName, node_of_combinator sameOp called,
                node_of_combinator named called, Entries.lookup?_pick, if_pos (by simp),
                Entries.lookup?_map]
              cases Entries.lookup? "content" members with
              | none =>
                  rfl
              | some content =>
                  simp only [Option.map_some, items?_withoutIgnoredInside]
                  cases content.items? with
                  | none =>
                      rfl
                  | some documents =>
                      simp only [Option.map_some, Indexed.traverse, Indexed.traverseFrom_map,
                        inductionHypothesis]
          | none =>
              cases found : Entries.lookup? "content" members with
              | some content =>
                  rw [withoutIgnored_of_content byName found]
                  refine node_congr_of_leaf text?_pickOperands ?_ byName (takings?_of_content found)
                  rw [Entries.lookup?_pick, if_pos (by simp), Entries.lookup?_map]
              | none =>
                  rw [withoutIgnored_of_bare byName found]
                  refine node_congr_of_leaf (fun _ => rfl) ?_ byName (takings?_of_bare found)
                  rw [Entries.lookup?_pick, if_pos (by simp), Option.map_id']
      | _ =>
          rfl

end Reader

end FacetSearch.Sqon
