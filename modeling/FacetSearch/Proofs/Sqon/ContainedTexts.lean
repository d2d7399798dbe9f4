import FacetSearch.Proofs.Encoding
import FacetSearch.Proofs.Sqon.Conditions
import FacetSearch.Proofs.Text.Wildcard

namespace FacetSearch

/-!
# Containing means having a segment

A `contains` leaf is compiled to a wildcard pattern, in which every character
of its text that a pattern would interpret has a backslash before it.  So the
text is never read as a pattern itself, whatever it is made of: the pattern
matches the subjects in which the text occurs somewhere.
-/

namespace Text

/--
A pattern searches for a text: whichever characters count as equal, it matches
the subjects with a segment that equals the text character by character.
-/
def IsSearchFor (pattern text : String) : Prop :=
  ∀ (same : Char → Char → Prop) (subject : String),
    MatchesWildcard same pattern.toList subject.toList ↔
      ∃ segment, segment <:+: subject.toList ∧ List.Forall₂ same text.toList segment

end Text

namespace Sqon

open Compiler Text

section Escaping

variable {same : Char → Char → Prop} {pattern subject : List Char}

/-- An escaped character in front of a pattern stands for itself, also where it was interpreted. -/
theorem Compiler.matchesWildcard_escaped_cons_iff
    {c : Char}
    {chars : List Char} :
    MatchesWildcard same (escapeWildcard (c :: chars) ++ pattern) subject ↔
      ∃ d rest, subject = d :: rest ∧ same c d ∧
        MatchesWildcard same (escapeWildcard chars ++ pattern) rest := by
  rw [escapeWildcard, List.flatMap_cons, List.append_assoc, ← escapeWildcard]
  split
  case isTrue =>
      exact matchesWildcard_escaped_iff
  case isFalse plain =>
      rw [not_or, not_or] at plain
      exact matchesWildcard_literal_iff plain.1 plain.2.1 fun isBackslash =>
        (plain.2.2 isBackslash).elim

/-- An escaped text in front of a pattern matches the beginnings that equal the text. -/
theorem Compiler.matchesWildcard_escapeWildcard_iff
    {chars : List Char} :
    MatchesWildcard same (escapeWildcard chars ++ pattern) subject ↔
      ∃ segment rest, subject = segment ++ rest ∧ List.Forall₂ same chars segment ∧
        MatchesWildcard same pattern rest := by
  induction chars generalizing subject with
  | nil =>
      constructor
      · intro isMatch
        exact ⟨[], subject, rfl, .nil, isMatch⟩
      · intro begins
        rcases begins with ⟨segment, rest, rfl, alike, isMatch⟩
        cases alike
        exact isMatch
  | cons c chars inductionHypothesis =>
      rw [matchesWildcard_escaped_cons_iff]
      constructor
      · intro taken
        rcases taken with ⟨d, others, rfl, first, isMatch⟩
        obtain ⟨segment, rest, rfl, alike, restMatches⟩ := inductionHypothesis.mp isMatch
        exact ⟨d :: segment, rest, rfl, .cons first alike, restMatches⟩
      · intro begins
        rcases begins with ⟨segment, rest, rfl, alike, restMatches⟩
        cases alike with
        | @cons _ d _ segment first alike =>
            have behind := inductionHypothesis.mpr ⟨segment, rest, rfl, alike, restMatches⟩
            exact ⟨d, segment ++ rest, rfl, first, behind⟩

/-- Stars on both sides let an escaped text be found anywhere. -/
theorem Compiler.isSearchFor_containing
    (text : String) :
    IsSearchFor (containing text) text := by
  intro same subject
  rw [containing, String.toList_ofList, List.cons_append, matchesWildcard_star_iff]
  constructor
  · intro someSuffix
    rcases someSuffix with ⟨found, isSuffix, isMatch⟩
    obtain ⟨segment, rest, rfl, alike, -⟩ := matchesWildcard_escapeWildcard_iff.mp isMatch
    exact ⟨segment, (List.prefix_append segment rest).isInfix.trans isSuffix.isInfix, alike⟩
  · intro someSegment
    rcases someSegment with ⟨segment, ⟨before, after, split⟩, alike⟩
    refine ⟨segment ++ after, ⟨before, by rw [← split, List.append_assoc]⟩, ?_⟩
    exact matchesWildcard_escapeWildcard_iff.mpr
      ⟨segment, after, rfl, alike, matchesWildcard_last_star⟩

/-- Letters of either case are found, but no letter in the place of the star. -/
example :
    MatchesWildcard (fun c d => lowerAscii c = lowerAscii d)
        (containing "a*").toList "BA*C".toList ∧
      ¬MatchesWildcard (fun c d => lowerAscii c = lowerAscii d)
        (containing "a*").toList "BABC".toList := by
  decide

end Escaping

section Leaves

variable {field : Field} {leaf : Leaf} {pending : Pending}

/-- A leaf that asks for a contained text compiles to a search for it, inside its scopes. -/
theorem Compiler.exists_search_of_contains
    (outcome : LeafOutcome field leaf pending)
    (isContains : leaf.op = .contains) :
    ∃ text,
      leaf.value = .string text ∧
        pending = onField field (.wildcard field.path (containing text) true) := by
  cases outcome with
  | contains _ isText =>
      exact ⟨_, Json.text?_eq_some_iff.mp isText, rfl⟩
  | isIn | notIn | between | atLeast | atMost | present | missing =>
      cases isContains

/-- No other leaf compiles to a wildcard. -/
theorem Compiler.contains_of_wildcard
    {path pattern : String}
    {caseInsensitive : Bool}
    (outcome : LeafOutcome field leaf pending)
    (inOutcome : .wildcard path pattern caseInsensitive ∈ pending.clause.conditions) :
    leaf.op = .contains ∧ ∃ text, leaf.value = .string text ∧ pattern = containing text := by
  have noneInPresence :
      Clause.wildcard path pattern caseInsensitive ∉ (presence field).clause.conditions := by
    unfold presence
    split <;> simp [onField, Clause.conditions]
  cases outcome with
  | @contains _ _ text _ isText =>
      obtain ⟨-, rfl, -⟩ : path = field.path ∧ pattern = containing text ∧ _ := by
        simpa [onField, Clause.conditions] using inOutcome
      exact ⟨rfl, text, Json.text?_eq_some_iff.mp isText, rfl⟩
  | isIn | between | atLeast | atMost =>
      simp [onField, Clause.conditions] at inOutcome
  | notIn =>
      rw [conditions_negation] at inOutcome
      simp [onField, Clause.conditions] at inOutcome
  | present =>
      exact (noneInPresence inOutcome).elim
  | missing =>
      rw [conditions_negation] at inOutcome
      exact (noneInPresence inOutcome).elim

end Leaves

/--
A `contains` leaf that compiles searches for its text.  Conversely, whatever a
compiled filter matches with a pattern is a search for the text of one of its
`contains` leaves.
-/
theorem wildcards_search_for_contained_texts
    {registry : Registry} :
    (∀ condition place pending,
      condition.op = .contains →
        Compiler.leaf registry condition place = .ok pending →
          ∃ text field pattern,
            condition.value = .string text ∧
              registry.field? condition.field = some field ∧
              pending = onField field (.wildcard field.path pattern true) ∧
              IsSearchFor pattern text) ∧
      ∀ limit (sqon : Sqon) clause,
        sqon.compile registry limit = .ok clause →
          ∀ path pattern caseInsensitive,
            .wildcard path pattern caseInsensitive ∈ clause.conditions →
              ∃ condition ∈ sqon.leaves,
                condition.op = .contains ∧
                  ∃ text, condition.value = .string text ∧ IsSearchFor pattern text := by
  constructor
  · intro condition place pending isContains compiled
    obtain ⟨field, found, outcome⟩ := leaf_eq_ok_iff.mp compiled
    obtain ⟨text, isText, isSearch⟩ := exists_search_of_contains outcome isContains
    exact ⟨text, field, containing text, isText, found, isSearch, isSearchFor_containing text⟩
  · intro limit sqon clause compiled path pattern caseInsensitive inClause
    obtain ⟨-, pending, compiles, rfl⟩ := compile_eq_ok_iff.mp compiled
    rw [Pending.close, Clause.conditions_within] at inClause
    obtain ⟨leaf, isLeaf, leafPending, leafCompiles, inLeaf⟩ :=
      compiles.exists_leaf_of_condition _ inClause
    obtain ⟨field, -, outcome⟩ := compiles_leaf_iff.mp leafCompiles
    obtain ⟨isContains, text, isText, rfl⟩ := contains_of_wildcard outcome inLeaf
    exact ⟨leaf, isLeaf, isContains, text, isText, isSearchFor_containing text⟩

/-- Genders with a star in them. -/
def starredGenders : Leaf where
  op := .contains
  field := "donors__gender"
  value := .string "*"

/-- The filter on open cases with such a gender. -/
def openCasesOfStarredGender : Sqon :=
  .all [.inValues "status" [.string "open"], .leaf starredGenders]

/-- The star of the leaf has a backslash in the pattern, so that a star is searched for. -/
theorem wildcards_search_for_star :
    Compiler.leaf caseRegistry starredGenders .root =
        .ok { chain := ["donors"], clause := .wildcard "donors.gender" "*\\**" true } ∧
      IsSearchFor "*\\**" "*" ∧
      openCasesOfStarredGender.compile caseRegistry 2 =
        .ok (.and [
          .term "status" [.string "open"],
          .nested "donors" (.wildcard "donors.gender" "*\\**" true)]) ∧
      ∃ condition ∈ openCasesOfStarredGender.leaves,
        condition.op = .contains ∧
          ∃ text, condition.value = .string text ∧ IsSearchFor "*\\**" text := by
  have leafCompiled :
      Compiler.leaf caseRegistry starredGenders .root =
        .ok { chain := ["donors"], clause := .wildcard "donors.gender" "*\\**" true } := by
    cbv
  have compiled :
      openCasesOfStarredGender.compile caseRegistry 2 =
        .ok (.and [
          .term "status" [.string "open"],
          .nested "donors" (.wildcard "donors.gender" "*\\**" true)]) := by
    cbv
  obtain ⟨text, field, pattern, isText, -, sameOutcome, isSearch⟩ :=
    wildcards_search_for_contained_texts.1 _ _ _ rfl leafCompiled
  obtain rfl : "*" = text := Json.string.inj isText
  obtain ⟨-, -, rfl⟩ :
      ["donors"] = field.nested ∧ "donors.gender" = field.path ∧ "*\\**" = pattern := by
    simpa [onField] using sameOutcome
  refine ⟨leafCompiled, isSearch, compiled, ?_⟩
  exact wildcards_search_for_contained_texts.2 _ _ _ compiled "donors.gender" _ true
    (by simp [Clause.conditions, Clause.conditionsOf])

end Sqon

end FacetSearch
