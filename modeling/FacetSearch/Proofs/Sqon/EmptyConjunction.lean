import FacetSearch.Proofs.Schema.Ancestors
import FacetSearch.Proofs.Sqon.Frames

namespace FacetSearch.Sqon

/-!
# Empty conjunctions

An `and` without children matches everything, and as a child of another `and`
it adds no condition.  Yet it lies in no nested field, so the `and` around it
no longer lies in the nested field of its other children: it opens their scopes
itself, and a conjunct farther out that lies in the same nested field is no
longer tested on the same object.  The empty `and` is neutral wherever no
conjunct farther out loses an object that it shared.
-/

open Compiler

section Insertion

variable {registry : Registry} {before after : List Sqon}

theorem compiles_empty_all_iff
    {pending : Pending} :
    Compiles registry (all []) pending ↔ pending = .bare .matchAll := by
  rw [all, compiles_combine_iff]
  constructor
  · rintro ⟨children, compile, combination⟩
    obtain rfl := List.forall₂_nil_left_iff.mp compile
    cases combination with
    | emptyAnd =>
        rfl
    | conjunction nonempty =>
        exact (nonempty rfl).elim
  · rintro rfl
    exact ⟨[], .nil, .emptyAnd⟩

/-- An `and` compiles when its children do. -/
theorem exists_compiles_all_iff
    {content : List Sqon} :
    (∃ pending, Compiles registry (all content) pending) ↔
      ∃ children, List.Forall₂ (Compiles registry) content children := by
  simp only [all, compiles_combine_iff]
  constructor
  · rintro ⟨pending, children, compile, -⟩
    exact ⟨children, compile⟩
  · rintro ⟨children, compile⟩
    obtain ⟨pending, combination⟩ : ∃ pending, Combination .and children pending :=
      exists_combination_iff.mpr (by simp)
    exact ⟨pending, children, compile, combination⟩

/-- What the children of an `and` compile to, with an empty `and` among them. -/
theorem outcomes_insert_iff
    {children : List Pending} :
    List.Forall₂ (Compiles registry) (before ++ all [] :: after) children ↔
      ∃ earlier later,
        List.Forall₂ (Compiles registry) before earlier ∧
          List.Forall₂ (Compiles registry) after later ∧
            earlier ++ .bare .matchAll :: later = children := by
  simp only [outcomes_append_iff, List.forall₂_cons_left_iff, compiles_empty_all_iff]
  constructor
  · rintro ⟨earlier, _, beforeCompile, ⟨_, later, rfl, afterCompile, rfl⟩, rfl⟩
    exact ⟨earlier, later, beforeCompile, afterCompile, rfl⟩
  · rintro ⟨earlier, later, beforeCompile, afterCompile, rfl⟩
    exact ⟨earlier, _, beforeCompile, ⟨_, later, rfl, afterCompile, rfl⟩, rfl⟩

/-- An `and` compiles with an empty `and` among its children as it does without. -/
theorem exists_compiles_insert_iff :
    (∃ pending, Compiles registry (all (before ++ after)) pending) ↔
      ∃ pending, Compiles registry (all (before ++ all [] :: after)) pending := by
  rw [exists_compiles_all_iff, exists_compiles_all_iff]
  constructor
  · rintro ⟨children, compile⟩
    obtain ⟨earlier, later, beforeCompile, afterCompile, -⟩ := outcomes_append_iff.mp compile
    exact ⟨_, outcomes_insert_iff.mpr ⟨earlier, later, beforeCompile, afterCompile, rfl⟩⟩
  · rintro ⟨children, compile⟩
    obtain ⟨earlier, later, beforeCompile, afterCompile, -⟩ := outcomes_insert_iff.mp compile
    exact ⟨_, outcomes_append_iff.mpr ⟨earlier, later, beforeCompile, afterCompile, rfl⟩⟩

theorem depth_le_of_insert
    (inserted : Sqon) :
    (all (before ++ after)).depth ≤ (all (before ++ inserted :: after)).depth := by
  simp only [all, depth, depthOf_append, depthOf]
  omega

/-- With an empty `and` among its children, an `and` opens their scopes itself. -/
theorem recloses_insert
    {α : Type}
    {test : ObjectTest α} :
    OutcomesRelate registry (Recloses test) (all (before ++ after))
      (all (before ++ all [] :: after)) := by
  intro pending pending' compiles compiles'
  obtain ⟨children, compile, combination⟩ := compiles_combine_iff.mp compiles
  obtain ⟨children', compile', combination'⟩ := compiles_combine_iff.mp compiles'
  obtain ⟨earlier, later, beforeCompile, afterCompile, rfl⟩ := outcomes_append_iff.mp compile
  obtain ⟨earlier', later', beforeCompile', afterCompile', rfl⟩ := outcomes_insert_iff.mp compile'
  obtain rfl := outcomes_unique beforeCompile beforeCompile'
  obtain rfl := outcomes_unique afterCompile afterCompile'
  rw [combination'.eq_of_and (by simp)]
  have among : ∀ item ∈ earlier ++ later, item ∈ earlier ++ .bare .matchAll :: later := by
    intro item member
    rcases List.mem_append.mp member with inEarlier | inLater
    · exact List.mem_append_left _ inEarlier
    · simp [inLater]
  by_cases empty : earlier ++ later = []
  · -- The node was an empty `and` itself, and says the same around another one.
    rw [empty] at combination
    obtain ⟨rfl, rfl⟩ := List.append_eq_nil_iff.mp empty
    rw [List.nil_append, joinSiblings_singleton Clause.all_singleton]
    cases combination with
    | emptyAnd =>
        exact ⟨Loosens.refl _, Widens.refl _⟩
    | conjunction nonempty =>
        exact (nonempty rfl).elim
  · rw [combination.eq_of_and empty]
    refine ⟨loosens_joinSiblings_all empty ?_ ?_, widens_joinSiblings_among empty among⟩
    · intro item member
      exact ⟨item, among item member, Loosens.refl item⟩
    · intro looser member
      by_cases present : looser ∈ earlier ++ later
      · exact ⟨looser, present, Loosens.refl looser⟩
      · obtain rfl : looser = .bare .matchAll := by
          simp only [List.mem_append, List.mem_cons] at member present
          tauto
        obtain ⟨item, itemMember⟩ := List.exists_mem_of_ne_nil _ empty
        exact ⟨item, itemMember, Loosens.matchAll item⟩

end Insertion

/--
An empty `and` may be inserted among the children of any `and` of a tree that
compiles, and taken away again, as far as the limit allows.  If nothing
around that `and` negates, the filter still holds of every document that it
held of.  If no sibling of an `and` around it loses a nested ancestor that it
shared, the filter holds of the same documents as before.
-/
theorem compile_insert_empty_all
    {registry : Registry}
    {limit : Nat}
    {frames : List Frame}
    {before after : List Sqon}
    (fitting : (inside frames (all (before ++ all [] :: after))).depth ≤ limit) :
    ((∃ clause, (inside frames (all (before ++ after))).compile registry limit = .ok clause) ↔
      ∃ clause,
        (inside frames (all (before ++ all [] :: after))).compile registry limit = .ok clause) ∧
      ∀ clause looser,
        (inside frames (all (before ++ after))).compile registry limit = .ok clause →
        (inside frames (all (before ++ all [] :: after))).compile registry limit = .ok looser →
        ((∀ frame ∈ frames, frame.op ≠ .not) →
          ∀ {α : Type} (test : ObjectTest α) (document : DocumentTree α),
            clause.holds test document = true → looser.holds test document = true) ∧
          (KeepsShared registry frames (all (before ++ after))
              (all (before ++ all [] :: after)) →
            ∀ {α : Type} (test : ObjectTest α) (document : DocumentTree α),
              looser.holds test document = clause.holds test document) := by
  have fittingWithout : (inside frames (all (before ++ after))).depth ≤ limit :=
    (depth_inside_mono (depth_le_of_insert (all []))).trans fitting
  constructor
  · rw [exists_compile_eq_ok_iff, exists_compile_eq_ok_iff, and_iff_right fitting,
      and_iff_right fittingWithout]
    exact exists_compiles_inside_iff exists_compiles_insert_iff
  · intro clause looser compiled compiledLooser
    obtain ⟨-, pending, compiles, rfl⟩ := compile_eq_ok_iff.mp compiled
    obtain ⟨-, pending', compiles', rfl⟩ := compile_eq_ok_iff.mp compiledLooser
    constructor
    · intro positive α test document holdsWithout
      have loosens :
          OutcomesRelate registry (Loosens test) (all (before ++ after))
            (all (before ++ all [] :: after)) :=
        (outcomesRelate_recloses_iff.mp recloses_insert).1
      exact (loosens_inside positive loosens pending pending' compiles compiles').holds_close
        holdsWithout
    · intro kept α test document
      exact (recloses_inside kept recloses_insert pending pending' compiles
        compiles').holds_close_iff

/-- Around a tree: an alternative on women, and a condition on the status around both. -/
def openCasesOfWomenOr : List Frame := [
  { op := .or, before := [inValues "donors__gender" [.string "female"]], after := [] },
  { op := .and, before := [inValues "status" [.string "open"]], after := [] }]

/-- The filter on open cases of women or of men at the age of 40, with one scope for donors. -/
def casesOfWomenOrMenAtForty : Clause :=
  .and [
    .term "status" [.string "open"],
    .nested "donors" (.or [
      .term "donors.gender" [.string "female"],
      .and [.term "donors.gender" [.string "male"], .term "donors.age" [.int 40]]])]

/-- The filter on the same cases, with a scope for each alternative. -/
def casesOfWomenOrMenAtFortyApart : Clause :=
  .and [
    .term "status" [.string "open"],
    .or [
      .nested "donors" (.term "donors.gender" [.string "female"]),
      .nested "donors"
        (.and [.term "donors.gender" [.string "male"], .term "donors.age" [.int 40]])]]

/-- An empty `and` between the conditions on men takes the alternatives apart, to no effect. -/
theorem compile_insert_empty_all_into_alternative :
    (inside openCasesOfWomenOr
        (all [
          inValues "donors__gender" [.string "male"],
          inValues "donors__age" [.int 40]])).compile caseRegistry 4 =
      .ok casesOfWomenOrMenAtForty ∧
      (inside openCasesOfWomenOr
          (all [
            inValues "donors__gender" [.string "male"],
            all [],
            inValues "donors__age" [.int 40]])).compile caseRegistry 4 =
        .ok casesOfWomenOrMenAtFortyApart ∧
      ∀ {α : Type} (test : ObjectTest α) (document : DocumentTree α),
        casesOfWomenOrMenAtFortyApart.holds test document =
          casesOfWomenOrMenAtForty.holds test document := by
  have compiled :
      (inside openCasesOfWomenOr
          (all [
            inValues "donors__gender" [.string "male"],
            inValues "donors__age" [.int 40]])).compile caseRegistry 4 =
        .ok casesOfWomenOrMenAtForty := by
    cbv
  have compiledApart :
      (inside openCasesOfWomenOr
          (all [
            inValues "donors__gender" [.string "male"],
            all [],
            inValues "donors__age" [.int 40]])).compile caseRegistry 4 =
        .ok casesOfWomenOrMenAtFortyApart := by
    cbv
  have statusCompiles :
      Compiles caseRegistry (inValues "status" [.string "open"])
        (.bare (.term "status" [.string "open"])) :=
    ⟨1, 1, .root, by cbv⟩
  have kept :
      KeepsShared caseRegistry openCasesOfWomenOr
        (all ([inValues "donors__gender" [.string "male"]] ++
          [inValues "donors__age" [.int 40]]))
        (all ([inValues "donors__gender" [.string "male"]] ++
          all [] :: [inValues "donors__age" [.int 40]])) := by
    refine ⟨?_, ?_, trivial⟩
    · intro isAnd
      cases isAnd
    · intro _ sibling member
      obtain rfl := List.mem_singleton.mp member
      exact sharesAlike_of_bare statusCompiles
  have fitting :
      (inside openCasesOfWomenOr
        (all ([inValues "donors__gender" [.string "male"]] ++
          all [] :: [inValues "donors__age" [.int 40]]))).depth ≤ 4 := by
    decide
  refine ⟨compiled, compiledApart, ?_⟩
  exact ((compile_insert_empty_all fitting).2 _ _ compiled compiledApart).2 kept

/-- A case with a man, and with somebody else who is 40. -/
def caseOfManAndElder : DocumentTree String :=
  .object "status" [
    ("donors", .object "donors.gender" []),
    ("donors", .object "donors.age" [])]

/-- An object satisfies the conditions on the one field that it has. -/
def ofField : ObjectTest String
  | .term field _, .object present _ => field == present
  | _, _ => false

/-- The filter on men at the age of 40. -/
def menAtForty : Clause :=
  .nested "donors" (.and [
    .term "donors.gender" [.string "male"],
    .term "donors.age" [.int 40]])

/-- The filter on cases with a man, and with a donor at the age of 40. -/
def menAndDonorsAtForty : Clause :=
  .and [
    .nested "donors" (.term "donors.gender" [.string "male"]),
    .nested "donors" (.term "donors.age" [.int 40])]

/-- With an empty `and` beside the gender, the age is tested on a donor of its own. -/
theorem compile_insert_empty_all_loses_donor :
    (all [
        all [inValues "donors__gender" [.string "male"]],
        inValues "donors__age" [.int 40]]).compile caseRegistry 3 =
      .ok menAtForty ∧
      (all [
          all [inValues "donors__gender" [.string "male"], all []],
          inValues "donors__age" [.int 40]]).compile caseRegistry 3 =
        .ok menAndDonorsAtForty ∧
      menAtForty.holds ofField caseOfManAndElder = false ∧
      menAndDonorsAtForty.holds ofField caseOfManAndElder = true :=
  ⟨by cbv, by cbv, by decide +kernel, by decide +kernel⟩

end FacetSearch.Sqon
