import FacetSearch.Proofs.Sqon.IgnoredMembers
import FacetSearch.Proofs.Sqon.Reading
import FacetSearch.Proofs.Sqon.Rejection

namespace FacetSearch.Sqon

/-!
# Reading undoes spelling

Every spelling of a complete tree is read as that tree when the limit admits
its depth, and a document that is read spells the tree that is returned, but for
members that nobody looks at.
-/

/-! ## Spellings are read -/

namespace Operands

variable {condition : Leaf} {operands : List (String × Json)}

theorem fieldOf?_eq
    (given : Operands condition operands) :
    fieldOf? operands = some (.string condition.field) := by
  rcases given with ⟨rfl | rfl⟩ | ⟨rfl | rfl⟩ <;> simp [fieldOf?, Entries.lookup?]

theorem valueOf_eq
    (given : Operands condition operands) :
    valueOf operands = condition.value := by
  rcases given with ⟨rfl | rfl⟩ | ⟨rfl | rfl, -, noValue⟩
  case withValue.inl | withValue.inr =>
      simp [valueOf, Entries.lookup?]
  all_goals simp [valueOf, Entries.lookup?, noValue]

/-- Operands stand under distinct keys, none of them a key of the node. -/
theorem distinct
    (given : Operands condition operands)
    (name : Json) :
    ((("op", name) :: operands).map Prod.fst).Nodup := by
  rcases given with ⟨rfl | rfl⟩ | ⟨rfl | rfl⟩ <;> simp

theorem lookup?_content
    (given : Operands condition operands) :
    Entries.lookup? "content" operands = none := by
  rcases given with ⟨rfl | rfl⟩ | ⟨rfl | rfl⟩ <;> simp [Entries.lookup?]

end Operands

/-- The spelling of a complete leaf says that leaf. -/
theorem Spells.says_leaf
    {condition : Leaf}
    {document : Json}
    (spells : Spells (.leaf condition) document)
    (complete : condition.IsComplete) :
    Says document (.leaf condition) := by
  cases spells with
  | @flatLeaf _ name operands members called given written =>
      have found (key : String) :
          Entries.lookup? key members = Entries.lookup? key (("op", .string name) :: operands) :=
        (Entries.lookup?_eq_of_perm (given.distinct _) written.symm).symm
      refine .leaf (by simp [found, Entries.lookup?]) called (.flat ?_) ?_ ?_ complete
      · simp [found, Entries.lookup?, given.lookup?_content]
      · simpa [fieldOf?, found, Entries.lookup?] using given.fieldOf?_eq
      · simpa [valueOf, found, Entries.lookup?] using given.valueOf_eq
  | @envelopedLeaf _ name operands inner members called given writtenInside written =>
      have found (key : String) :
          Entries.lookup? key members =
            Entries.lookup? key [("op", .string name), ("content", .object inner)] :=
        (Entries.lookup?_eq_of_perm (by simp) written.symm).symm
      have foundInside (key : String) :
          Entries.lookup? key inner = Entries.lookup? key operands :=
        (Entries.lookup?_eq_of_perm (given.distinct (.string name)).of_cons
          writtenInside.symm).symm
      have content : Entries.lookup? "content" members = some (.object inner) := by
        simp [found, Entries.lookup?]
      refine .leaf (by simp [found, Entries.lookup?]) called (.enveloped content) ?_ ?_ complete
      · simpa [fieldOf?, foundInside] using given.fieldOf?_eq
      · simpa [valueOf, foundInside] using given.valueOf_eq

/-- The spelling of a combination says its combinator over the spellings of its operands. -/
theorem Spells.exists_says_combine
    {op : Combinator}
    {content : List Sqon}
    {document : Json}
    (spells : Spells (.combine op content) document) :
    ∃ documents, Says document (.combine op documents) ∧ List.Forall₂ Spells content documents := by
  cases spells with
  | @combination _ name _ documents members called spelt written =>
      have found (key : String) :
          Entries.lookup? key members =
            Entries.lookup? key [("op", .string name), ("content", .array documents)] :=
        (Entries.lookup?_eq_of_perm (by simp) written.symm).symm
      exact ⟨documents,
        .combination (by simp [found, Entries.lookup?]) called (by simp [found, Entries.lookup?]),
        spelt⟩
  | emptyCombination called =>
      exact ⟨[], .emptyCombination rfl called rfl, .nil⟩

/-- Below the limit the spelling of a complete tree is read as that tree. -/
theorem Spells.node_eq_ok
    {sqon : Sqon}
    {document : Json}
    (spells : Spells sqon document)
    (complete : sqon.IsComplete)
    {limit remaining : Nat}
    {place : Location}
    (fits : sqon.depth ≤ remaining) :
    Reader.node limit remaining place document = .ok sqon := by
  induction sqon using inductionOnChildren generalizing document remaining place with
  | leaf condition =>
      obtain ⟨levels, rfl⟩ : ∃ levels, remaining = levels + 1 :=
        Nat.exists_eq_add_of_le' fits
      exact Reader.node_of_says_leaf (spells.says_leaf (isComplete_leaf_iff.mp complete))
  | combine op content inductionHypothesis =>
      rw [depth] at fits
      obtain ⟨levels, rfl⟩ : ∃ levels, remaining = levels + 1 :=
        ⟨remaining - 1, by omega⟩
      have childFits := depthOf_le_iff.mp (Nat.le_of_succ_le_succ fits)
      have childComplete := isComplete_combine_iff.mp complete
      obtain ⟨documents, said, spelt⟩ := spells.exists_says_combine
      have reads :
          ∀ child ∈ content, ∀ childDocument, Spells child childDocument →
            ∀ position,
              Reader.node limit levels (place.child position) childDocument = .ok child := by
        intro child member childDocument childSpells position
        exact inductionHypothesis child member childSpells (childComplete child member)
          (childFits child member)
      rw [Reader.node_of_says_combine said]
      refine Compiler.map_eq_ok_iff.mpr ⟨content, ?_, rfl⟩
      apply Indexed.traverseFrom_eq_ok_of_forall₂
      apply List.Forall₂.flip
      apply ((List.forall₂_and_left _ _).mpr ⟨reads, spelt⟩).imp
      rintro child childDocument ⟨readsChild, childSpells⟩
      exact readsChild childDocument childSpells

/-- Above the limit the spelling of a tree is too deep, at a node where the limit is reached. -/
theorem Spells.exists_node_eq_tooDeep
    {sqon : Sqon}
    {document : Json}
    (spells : Spells sqon document)
    (complete : sqon.IsComplete)
    {limit remaining : Nat}
    {steps : List Nat}
    (exceeds : remaining < sqon.depth) :
    ∃ rest : List Nat,
      rest.length = remaining ∧
        Reader.node limit remaining (.node steps) document =
          .error (.invalidSqon (.tooDeep limit) (.node (steps ++ rest))) := by
  induction sqon using inductionOnChildren generalizing document remaining steps with
  | leaf condition =>
      obtain rfl : remaining = 0 := Nat.lt_one_iff.mp exceeds
      exact ⟨[], rfl, by rw [List.append_nil]; rfl⟩
  | combine op content inductionHypothesis =>
      cases remaining with
      | zero =>
          exact ⟨[], rfl, by rw [List.append_nil]; rfl⟩
      | succ levels =>
          have childComplete := isComplete_combine_iff.mp complete
          obtain ⟨documents, said, spelt⟩ := spells.exists_says_combine
          rw [Reader.node_of_says_combine said]
          cases traversed :
              Indexed.traverse
                (fun position child =>
                  Reader.node limit levels ((Location.node steps).child position) child)
                documents with
          | error failure =>
              -- A child that fits is read, so the one that fails is too deep as well.
              obtain ⟨position, childDocument, found, fails, -⟩ :=
                Indexed.exists_failing_item traversed
              rw [Nat.zero_add] at fails
              obtain ⟨child, member, childSpells⟩ :=
                exists_left_of_forall₂ spelt (List.mem_of_getElem? found)
              have childExceeds : levels < child.depth := by
                by_contra fits
                rw [childSpells.node_eq_ok (childComplete child member) (Nat.not_lt.mp fits)]
                  at fails
                cases fails
              obtain ⟨rest, reached, failsThere⟩ :=
                inductionHypothesis child member childSpells (childComplete child member)
                  childExceeds
              rw [Location.child, failsThere] at fails
              refine ⟨position :: rest, by rw [List.length_cons, reached], ?_⟩
              rw [← Except.error.inj fails, List.append_assoc]
              rfl
          | ok results =>
              -- A child that is too deep is not read, so not all of them are.
              obtain ⟨child, member, childExceeds⟩ :
                  ∃ child ∈ content, levels < child.depth := by
                by_contra none
                push Not at none
                rw [depth, Nat.add_lt_add_iff_right, ← Nat.not_le] at exceeds
                exact exceeds (depthOf_le_iff.mpr none)
              obtain ⟨childDocument, inDocuments, childSpells⟩ :=
                exists_right_of_forall₂ spelt member
              obtain ⟨position, found⟩ := List.mem_iff_getElem?.mp inDocuments
              obtain ⟨result, read⟩ := Indexed.exists_result_of_traverseFrom traversed found
              obtain ⟨rest, -, fails⟩ :=
                inductionHypothesis child member childSpells (childComplete child member)
                  childExceeds
              rw [Nat.zero_add, Location.child, fails] at read
              cases read

/-! ## What is read is a spelling -/

/-- What is looked at among the operands of a leaf gives its field and value. -/
theorem operands_of_picked
    {condition : Leaf}
    {operands : List (String × Json)}
    (onField : fieldOf? operands = some (.string condition.field))
    (takes : valueOf operands = condition.value)
    (complete : condition.IsComplete) :
    Operands condition
      ((operandKeys operands).filterMap fun key =>
        (Entries.lookup? key operands).map fun value => (key, value)) := by
  -- The field stands under the one of the two keys that is picked.
  obtain ⟨key, isKey, keys, underKey⟩ :
      ∃ key,
        (key = "fieldName" ∨ key = "field") ∧
          operandKeys operands = [key, "value"] ∧
          Entries.lookup? key operands = some (.string condition.field) := by
    rw [fieldOf?] at onField
    cases found : Entries.lookup? "fieldName" operands with
    | some field =>
        rw [found] at onField
        exact ⟨"fieldName", .inl rfl, by simp [operandKeys, found], found.trans onField⟩
    | none =>
        rw [found, Option.none_or] at onField
        exact ⟨"field", .inr rfl, by simp [operandKeys, found], onField⟩
  rw [valueOf] at takes
  rw [keys]
  cases given : Entries.lookup? "value" operands with
  | some value =>
      obtain rfl : value = condition.value := by simpa [given] using takes
      have both : Operands condition [(key, .string condition.field), ("value", condition.value)] :=
        .withValue isKey
      simpa [underKey, given] using both
  | none =>
      have noValue : condition.value = .null := by simpa [given] using takes.symm
      simpa [underKey, given] using Operands.withoutValue isKey (complete noValue) noValue

theorem nodup_op_operandKeys
    (operands : List (String × Json)) :
    ("op" :: operandKeys operands).Nodup := by
  rw [operandKeys]
  split <;> simp

theorem Says.spells_leaf
    {document : Json}
    {condition : Leaf}
    (said : Says document (.leaf condition)) :
    Spells (.leaf condition) (withoutIgnored document) := by
  cases said with
  | @leaf members operands name _ named called given onField takes complete =>
      have noCombinator : combinatorOf? members = none := by
        simpa [combinatorOf?, named, Json.text?] using called.not_combinator
      have given' := operands_of_picked onField takes complete
      cases given with
      | flat bare =>
          rw [withoutIgnored_of_bare noCombinator bare]
          have picked := Entries.perm_pick (nodup_op_operandKeys members) members
          simp only [List.filterMap_cons, named, Option.map_some] at picked
          exact .flatLeaf called given' picked
      | enveloped content =>
          rw [withoutIgnored_of_content noCombinator content]
          have inside := Entries.perm_pick (nodup_op_operandKeys operands).of_cons operands
          refine .envelopedLeaf called given' inside ?_
          have distinct : ["op", "content"].Nodup := by simp
          have outside := Entries.perm_pick distinct (members.map (Prod.map id pickOperands))
          simpa [Entries.lookup?_map, named, content, pickOperands] using outside

theorem Says.spells_combine
    {document : Json}
    {op : Combinator}
    {documents : List Json}
    {content : List Sqon}
    (said : Says document (.combine op documents))
    (spelt : List.Forall₂ Spells content (documents.map withoutIgnored)) :
    Spells (.combine op content) (withoutIgnored document) := by
  have distinct : ["op", "content"].Nodup := by simp
  cases said with
  | @combination members _ _ _ named called found =>
      rw [withoutIgnored_of_combinator (combinatorOf?_eq_some_iff.mpr ⟨_, named, called⟩)]
      have picked := Entries.perm_pick distinct (members.map (Prod.map id withoutIgnoredInside))
      refine .combination called spelt ?_
      simpa [Entries.lookup?_map, named, found, withoutIgnoredInside,
        withoutIgnoredEach_eq_map] using picked
  | @emptyCombination members name _ named called bare =>
      obtain rfl := List.forall₂_nil_right_iff.mp spelt
      rw [withoutIgnored_of_combinator (combinatorOf?_eq_some_iff.mpr ⟨_, named, called⟩)]
      have picked := Entries.perm_pick distinct (members.map (Prod.map id withoutIgnoredInside))
      simp only [List.filterMap_cons, List.filterMap_nil, Entries.lookup?_map, named, bare,
        withoutIgnoredInside, Option.map_some, Option.map_none, List.perm_singleton] at picked
      rw [picked]
      exact .emptyCombination called

/-- What is read is complete, and the document spells it. -/
theorem spells_of_node
    {limit remaining : Nat}
    {place : Location}
    {document : Json}
    {sqon : Sqon}
    (read : Reader.node limit remaining place document = .ok sqon) :
    sqon.IsComplete ∧ Spells sqon (withoutIgnored document) := by
  induction remaining generalizing place document sqon with
  | zero =>
      cases read
  | succ remaining inductionHypothesis =>
      rcases Reader.says_of_node read with
        ⟨condition, said, rfl⟩ | ⟨op, documents, content, said, traversed, rfl⟩
      · exact ⟨isComplete_leaf_iff.mpr said.isComplete, said.spells_leaf⟩
      · have spelt :
            List.Forall₂
              (fun childDocument child =>
                IsComplete child ∧ Spells child (withoutIgnored childDocument))
              documents content := by
          apply (Indexed.forall₂_of_traverseFrom traversed).imp
          rintro childDocument child ⟨position, readChild⟩
          exact inductionHypothesis readChild
        constructor
        · rw [isComplete_combine_iff]
          intro child member
          obtain ⟨_, -, complete, -⟩ := exists_left_of_forall₂ spelt member
          exact complete
        · apply said.spells_combine
          rw [List.forall₂_map_right_iff]
          apply List.Forall₂.flip
          exact spelt.imp fun _ _ both => both.2

/-! ## Both directions, and the errors -/

/--
A spelling of a complete tree is read as that tree at every limit that admits
its depth, and is too deep at every other.  Conversely a document is read as a
tree exactly when, without the members that nobody looks at, it spells that
tree, which is complete and no deeper than the limit.  Every other document
fails with the fault of its first faulty node, parents before their operands
and from left to right, at the place of that node.
-/
theorem reading_undoes_spelling :
    (∀ sqon document, sqon.IsComplete → Spells sqon document →
      ∀ limit,
        (sqon.depth ≤ limit → ofJson limit document = .ok sqon) ∧
          (limit < sqon.depth →
            ∃ address : List Nat,
              address.length = limit ∧
                ofJson limit document =
                  .error (.invalidSqon (.tooDeep limit) (.node address)))) ∧
      (∀ limit document sqon,
        ofJson limit document = .ok sqon ↔
          sqon.IsComplete ∧ sqon.depth ≤ limit ∧ Spells sqon (withoutIgnored document)) ∧
      ∀ limit document failure,
        ofJson limit document = .error failure ↔
          ∃ address,
            IsFirstFaulty (IsFaulty limit) document address failure ∧
              failure.place?.map Location.text =
                some ("sqon" ++
                  String.join (address.map fun position =>
                    ".content[" ++ toString position ++ "]")) := by
  refine ⟨?_, ?_, ?_⟩
  · intro sqon document complete spells limit
    constructor
    · intro fits
      exact spells.node_eq_ok complete fits
    · intro exceeds
      exact spells.exists_node_eq_tooDeep complete exceeds
  · intro limit document sqon
    constructor
    · intro read
      obtain ⟨complete, spells⟩ := spells_of_node read
      exact ⟨complete, depth_le_of_ofJson read, spells⟩
    · rintro ⟨complete, fits, spells⟩
      rw [ofJson, ← Reader.node_withoutIgnored]
      exact spells.node_eq_ok complete fits
  · intro limit document failure
    rw [ofJson_eq_error_iff]
    apply exists_congr
    intro address
    rw [iff_self_and]
    intro isFirst
    obtain ⟨node, -, isFaulty⟩ := isFirst.isFaulty
    rw [isFaulty.place?_eq, Option.map_some, Location.text_node]

/-- No men, no age, and nothing asked of the rest. -/
def noMen : Sqon :=
  .all [
    .any [],
    .test .notIn "donors__gender" (.array [.string "male"]),
    .absent "donors__age"]

/-- A spelling with capitals, an alias, an envelope and all that may be left out left out. -/
def noMenSpelt : Json :=
  .object [
    ("content", .array [
      .object [("op", .string "OR")],
      .object [
        ("op", .string "Not_In"),
        ("content", .object [
          ("value", .array [.string "male"]),
          ("field", .string "donors__gender")])],
      .object [("fieldName", .string "donors__age"), ("op", .string "MISSING")]]),
    ("op", .string "And")]

/-- The same with a note on a leaf, and a shorter key beside the longer one. -/
def noMenAnnotated : Json :=
  .object [
    ("op", .string "and"),
    ("content", .array [
      .object [("op", .string "or"), ("content", .array []), ("value", .nat 1)],
      .object [
        ("op", .string "notin"),
        ("fieldName", .string "donors__gender"),
        ("field", .string "donors__age"),
        ("value", .array [.string "male"])],
      .object [
        ("op", .string "missing"),
        ("note", .string "or unknown"),
        ("fieldName", .string "donors__age"),
        ("value", .null)]])]

/-- A leaf without its value, before an operator that there is not. -/
def noMenMisspelt : Json :=
  .object [
    ("op", .string "and"),
    ("content", .array [
      .object [("op", .string "or")],
      .object [("op", .string "NOTIN"), ("fieldName", .string "donors__gender")],
      .object [("op", .string "absent"), ("fieldName", .string "donors__age")]])]

theorem noMen_isComplete : noMen.IsComplete := by
  have leaves :
      noMen.leaves =
        [⟨.notIn, "donors__gender", .array [.string "male"]⟩, ⟨.missing, "donors__age", .null⟩] :=
    rfl
  simp [IsComplete, Leaf.IsComplete, leaves, Operator.isPresence]

theorem noMenSpelt_spells : Spells noMen noMenSpelt := by
  refine .combination (Combinator.isCalled_iff.mpr rfl) ?_ (.swap _ _ _)
  refine .cons ?anything (.cons ?gender (.cons ?age .nil))
  case anything =>
      exact .emptyCombination (Combinator.isCalled_iff.mpr rfl)
  case gender =>
      exact .envelopedLeaf (Operator.isCalled_iff.mpr rfl) (.withValue (.inr rfl))
        (.swap _ _ _) (.refl _)
  case age =>
      exact .flatLeaf (Operator.isCalled_iff.mpr rfl) (.withoutValue (.inl rfl) rfl rfl)
        (.swap _ _ _)

/--
The first spelling is read at two levels and too deep at one, the second one
spells the tree without its note, its number and the shorter key, and of the
two misspelt leaves the first is reported.
-/
theorem reading_undoes_spelling_of_noMen :
    ofJson 2 noMenSpelt = .ok noMen ∧
      (∃ address : List Nat,
        address.length = 1 ∧
          ofJson 1 noMenSpelt = .error (.invalidSqon (.tooDeep 1) (.node address))) ∧
      (noMen.IsComplete ∧ noMen.depth ≤ 2 ∧ Spells noMen (withoutIgnored noMenAnnotated)) ∧
      ∃ address,
        IsFirstFaulty (IsFaulty 2) noMenMisspelt address
            (.invalidSqon (.missingValue "NOTIN") (.node [1])) ∧
          some "sqon.content[1]" =
            some ("sqon" ++
              String.join (address.map fun position =>
                ".content[" ++ toString position ++ "]")) := by
  have depth : noMen.depth = 2 := rfl
  have readAnnotated : ofJson 2 noMenAnnotated = .ok noMen := by
    rfl
  have misspelt :
      ofJson 2 noMenMisspelt = .error (.invalidSqon (.missingValue "NOTIN") (.node [1])) := by
    rfl
  have spelt := reading_undoes_spelling.1 noMen noMenSpelt noMen_isComplete noMenSpelt_spells
  exact ⟨(spelt 2).1 (by omega), (spelt 1).2 (by omega),
    (reading_undoes_spelling.2.1 2 noMenAnnotated noMen).mp readAnnotated,
    (reading_undoes_spelling.2.2 2 noMenMisspelt _).mp misspelt⟩

end FacetSearch.Sqon
