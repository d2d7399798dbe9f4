import FacetSearch.Proofs.Clause.Forest
import FacetSearch.Schema.Registry

namespace FacetSearch

/-!
# Nested ancestors

The chain of a field lists the declared nested fields above it.  Every one of
them is a field with a chain of its own, and that is the part of the chain in
front of it: chains are closed under going up.
-/

namespace Path

/-- A path is a parent of another one: it is what stands before one of the dots there. -/
def IsParent (parent path : String) : Prop :=
  ∃ rest, path = parent ++ "." ++ rest

theorem mem_parentChars_iff
    {parent chars : List Char} :
    parent ∈ parentChars chars ↔ ∃ rest, chars = parent ++ '.' :: rest := by
  induction chars generalizing parent with
  | nil =>
      simp [parentChars]
  | cons c rest inductionHypothesis =>
      -- Only the empty parent ends at the first character; all others begin with it.
      cases parent with
      | nil =>
          by_cases isDot : c = '.' <;> simp [parentChars, isDot]
      | cons first inner =>
          have below :
              first :: inner ∈ parentChars (c :: rest) ↔
                c = first ∧ inner ∈ parentChars rest := by
            by_cases isDot : c = '.' <;> simp [parentChars, isDot, and_comm]
          rw [below, inductionHypothesis]
          simp only [List.cons_append, List.cons.injEq, exists_and_left]

theorem mem_parents_iff
    {parent path : String} :
    parent ∈ parents path ↔ IsParent parent path := by
  have split :
      ∀ rest : List Char,
        path.toList = parent.toList ++ '.' :: rest ↔
          path = parent ++ "." ++ String.ofList rest := by
    intro rest
    rw [← String.toList_inj]
    simp
  constructor
  · intro member
    obtain ⟨chars, isParent, rfl⟩ := List.mem_map.mp member
    obtain ⟨rest, shape⟩ := mem_parentChars_iff.mp isParent
    exact ⟨String.ofList rest, (split rest).mp (by rw [shape, String.toList_ofList])⟩
  · rintro ⟨rest, shape⟩
    have chars := (split rest.toList).mpr (by rwa [String.ofList_toList])
    exact List.mem_map.mpr ⟨_, mem_parentChars_iff.mpr ⟨_, chars⟩, String.ofList_toList⟩

theorem pairwise_parentChars
    {chars : List Char} :
    (parentChars chars).Pairwise fun outer inner => outer.length < inner.length := by
  induction chars with
  | nil =>
      exact .nil
  | cons c rest inductionHypothesis =>
      have below :
          ((parentChars rest).map (c :: ·)).Pairwise
            fun outer inner => outer.length < inner.length := by
        rw [List.pairwise_map]
        exact inductionHypothesis.imp fun shorter => by simpa using shorter
      by_cases isDot : c = '.'
      · rw [parentChars, if_pos isDot]
        exact .cons (by simp) below
      · rw [parentChars, if_neg isDot]
        exact below

/-- Parents are listed from the shortest one to the longest. -/
theorem pairwise_parents
    {path : String} :
    (parents path).Pairwise fun outer inner => outer.length < inner.length := by
  rw [parents, List.pairwise_map]
  simpa only [String.length_ofList] using pairwise_parentChars

/-- The parents of a parent are those that come before it. -/
theorem parentChars_of_split
    {chars parent : List Char}
    {before after : List (List Char)}
    (split : parentChars chars = before ++ parent :: after) :
    parentChars parent = before := by
  induction chars generalizing before parent after with
  | nil =>
      simp [parentChars] at split
  | cons c rest inductionHypothesis =>
      have below :
          ∀ {before parent after},
            (parentChars rest).map (c :: ·) = before ++ parent :: after →
            ∃ inner innerBefore,
              parent = c :: inner ∧ before = innerBefore.map (c :: ·) ∧
                parentChars inner = innerBefore := by
        intro before parent after split
        obtain ⟨innerBefore, innerAfter, restSplit, rfl, later⟩ := List.map_eq_append_iff.mp split
        obtain ⟨inner, innerLater, rfl, rfl, -⟩ := List.map_eq_cons_iff.mp later
        exact ⟨inner, innerBefore, rfl, rfl, inductionHypothesis restSplit⟩
      by_cases isDot : c = '.'
      · rw [parentChars, if_pos isDot] at split
        cases before with
        | nil =>
            obtain ⟨rfl, -⟩ : [] = parent ∧ _ := by simpa using split
            rfl
        | cons first before =>
            rw [List.cons_append, List.cons.injEq] at split
            obtain ⟨rfl, split⟩ := split
            obtain ⟨inner, innerBefore, rfl, rfl, above⟩ := below split
            rw [parentChars, if_pos isDot, above]
      · rw [parentChars, if_neg isDot] at split
        obtain ⟨inner, innerBefore, rfl, rfl, above⟩ := below split
        rw [parentChars, if_neg isDot, above]

theorem parents_of_split
    {path parent : String}
    {before after : List String}
    (split : parents path = before ++ parent :: after) :
    parents parent = before := by
  obtain ⟨charsBefore, charsAfter, charSplit, rfl, later⟩ := List.map_eq_append_iff.mp split
  obtain ⟨chars, charsLater, rfl, rfl, -⟩ := List.map_eq_cons_iff.mp later
  rw [parents, String.toList_ofList, parentChars_of_split charSplit]

end Path

namespace Registry

variable {registry : Registry}

/-- A path is that of a declared nested field whose chain is the given one. -/
def IsNestedBelow
    (registry : Registry)
    (parent : List String)
    (path : String) :
    Prop :=
  ∃ field ∈ registry.fields,
    field.path = path ∧ field.type = .nested ∧ field.nested = parent

theorem mem_fields_of_field?
    {name : String}
    {field : Field}
    (found : registry.field? name = some field) :
    field ∈ registry.fields := by
  obtain ⟨spec, foundSpec, rfl⟩ := Option.map_eq_some_iff.mp found
  exact List.mem_map.mpr ⟨spec, List.mem_of_find?_eq_some foundSpec, rfl⟩

/-- Every path of a field's chain is a nested field, and its chain is the part before it. -/
theorem everyStep_nested
    {field : Field}
    (declared : field ∈ registry.fields) :
    EveryStep registry.IsNestedBelow field.nested := by
  obtain ⟨spec, -, rfl⟩ := List.mem_map.mp declared
  rintro parent path ⟨later, split⟩
  simp only [FieldSpec.resolve, List.append_assoc, List.singleton_append] at split
  obtain ⟨before, pathOn, pathsSplit, rfl, keptFromPath⟩ :=
    List.filter_eq_append_iff.mp split.symm
  obtain ⟨skipped, after, rfl, noneSkipped, isNested, -⟩ :=
    List.filter_eq_cons_iff.mp keptFromPath
  obtain ⟨ancestor, ancestorDeclared, isAncestor⟩ := List.any_eq_true.mp isNested
  obtain ⟨nestedType, rfl⟩ : ancestor.type = .nested ∧ ancestor.path = path := by
    simpa using isAncestor
  refine ⟨ancestor.resolve registry.specs, List.mem_map.mpr ⟨ancestor, ancestorDeclared, rfl⟩,
    rfl, nestedType, ?_⟩
  rw [← List.append_assoc] at pathsSplit
  have skippedAll : skipped.filter (FieldSpec.declaresNested registry.specs) = [] :=
    List.filter_eq_nil_iff.mpr noneSkipped
  rw [FieldSpec.resolve, Path.parents_of_split pathsSplit, List.filter_append, skippedAll,
    List.append_nil]

end Registry

/-- Cases with a status and with donors, who have diagnoses. -/
def caseType : DocumentType where
  name := "cases"
  project := "demo"
  index := "cases"
  fields := [
    { name := "status", sourcePath := none, type := .keyword, displayValues := none },
    { name := "donors", sourcePath := none, type := .nested, displayValues := none },
    { name := "donors__gender", sourcePath := none, type := .keyword, displayValues := none },
    { name := "donors__age", sourcePath := none, type := .long, displayValues := none },
    { name := "donors__diagnoses", sourcePath := none, type := .nested, displayValues := none },
    { name := "donors__diagnoses__stage", sourcePath := none, type := .keyword,
      displayValues := none }]
  defaultSort := []
  idField := DocumentType.defaultIdField

/-- The registry of cases. -/
def caseRegistry : Registry where
  documentType := caseType
  wellFormed := ⟨by decide +kernel, by decide +kernel, by decide +kernel⟩

example :
    (caseRegistry.field? "donors__diagnoses__stage").map Field.nested =
      some ["donors", "donors.diagnoses"] := by
  rfl

end FacetSearch
