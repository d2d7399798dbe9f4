import FacetSearch.Text.Wildcard
import Mathlib.Data.List.Infix

namespace FacetSearch.Text

/-!
# Matching wildcard patterns

A pattern is taken apart from its front: each kind of first character says what
a text must begin with, and the rest of the pattern what must follow.  So
matching can be decided, trying every suffix of the text behind a star.
-/

section Inversion

variable {same : Char → Char → Prop} {pattern text : List Char}

/-- The empty pattern matches the empty text alone. -/
theorem matchesWildcard_nil_iff :
    MatchesWildcard same [] text ↔ text = [] := by
  constructor
  · intro isMatch
    cases isMatch
    rfl
  · intro isEmpty
    subst text
    exact .done

/-- Behind a star the rest of the pattern matches some suffix. -/
theorem matchesWildcard_star_iff :
    MatchesWildcard same ('*' :: pattern) text ↔
      ∃ rest, rest <:+ text ∧ MatchesWildcard same pattern rest := by
  constructor
  · intro isMatch
    cases isMatch with
    | star skipped restMatches =>
        exact ⟨_, List.suffix_append skipped _, restMatches⟩
    | literal notStar =>
        exact (notStar rfl).elim
  · intro someSuffix
    rcases someSuffix with ⟨rest, ⟨skipped, rfl⟩, restMatches⟩
    exact .star skipped restMatches

theorem matchesWildcard_one_iff :
    MatchesWildcard same ('?' :: pattern) text ↔
      ∃ c rest, text = c :: rest ∧ MatchesWildcard same pattern rest := by
  constructor
  · intro isMatch
    cases isMatch with
    | one c restMatches =>
        exact ⟨c, _, rfl, restMatches⟩
    | literal _ notOne =>
        exact (notOne rfl).elim
  · intro taken
    rcases taken with ⟨c, rest, rfl, restMatches⟩
    exact .one c restMatches

/-- A character behind a backslash stands for itself, whichever it is. -/
theorem matchesWildcard_escaped_iff
    {literal : Char} :
    MatchesWildcard same ('\\' :: literal :: pattern) text ↔
      ∃ c rest, text = c :: rest ∧ same literal c ∧ MatchesWildcard same pattern rest := by
  constructor
  · intro isMatch
    cases isMatch with
    | escaped alike restMatches =>
        exact ⟨_, _, rfl, alike, restMatches⟩
    | literal _ _ isLast =>
        exact (List.cons_ne_nil _ _ (isLast rfl)).elim
  · intro taken
    rcases taken with ⟨c, rest, rfl, alike, restMatches⟩
    exact .escaped alike restMatches

/-- A character that is no star, question mark or backslash with a successor stands for itself. -/
theorem matchesWildcard_literal_iff
    {literal : Char}
    (notStar : literal ≠ '*')
    (notOne : literal ≠ '?')
    (noEscape : literal = '\\' → pattern = []) :
    MatchesWildcard same (literal :: pattern) text ↔
      ∃ c rest, text = c :: rest ∧ same literal c ∧ MatchesWildcard same pattern rest := by
  constructor
  · intro isMatch
    cases isMatch with
    | star =>
        exact (notStar rfl).elim
    | one =>
        exact (notOne rfl).elim
    | escaped =>
        exact (List.cons_ne_nil _ _ (noEscape rfl)).elim
    | literal _ _ _ alike restMatches =>
        exact ⟨_, _, rfl, alike, restMatches⟩
  · intro taken
    rcases taken with ⟨c, rest, rfl, alike, restMatches⟩
    exact .literal notStar notOne noEscape alike restMatches

/-- A star at the end leaves nothing to be matched. -/
theorem matchesWildcard_last_star :
    MatchesWildcard same ['*'] text :=
  matchesWildcard_star_iff.mpr ⟨[], List.nil_suffix, .done⟩

end Inversion

section Decision

/-- Whether the first character of a text and what follows it pass tests. -/
def startsWith
    (first : Char → Bool)
    (rest : List Char → Bool) :
    List Char → Bool
  | [] => false
  | c :: others => first c && rest others

theorem startsWith_eq_true_iff
    {first : Char → Bool}
    {rest : List Char → Bool}
    {text : List Char} :
    startsWith first rest text = true ↔
      ∃ c others, text = c :: others ∧ first c = true ∧ rest others = true := by
  cases text <;> simp [startsWith]

/-- Whether a text matches a pattern. -/
def matchesWildcard (same : Char → Char → Bool) : List Char → List Char → Bool
  | [] => List.isEmpty
  | '*' :: pattern => fun text => text.tails.any (matchesWildcard same pattern)
  | '?' :: pattern => startsWith (fun _ => true) (matchesWildcard same pattern)
  | '\\' :: literal :: pattern => startsWith (same literal) (matchesWildcard same pattern)
  | literal :: pattern => startsWith (same literal) (matchesWildcard same pattern)

/-- The test finds exactly the texts that match. -/
theorem matchesWildcard_eq_true_iff
    {same : Char → Char → Bool}
    {pattern text : List Char} :
    matchesWildcard same pattern text = true ↔
      MatchesWildcard (fun literal c => same literal c = true) pattern text := by
  induction pattern using matchesWildcard.induct generalizing text with
  | case1 =>
      rw [matchesWildcard, List.isEmpty_iff, matchesWildcard_nil_iff]
  | case2 pattern inductionHypothesis =>
      rw [matchesWildcard, matchesWildcard_star_iff]
      simp only [List.any_eq_true, List.mem_tails, inductionHypothesis]
  | case3 pattern inductionHypothesis =>
      rw [matchesWildcard, startsWith_eq_true_iff, matchesWildcard_one_iff]
      simp only [inductionHypothesis, true_and]
  | case4 literal pattern inductionHypothesis =>
      rw [matchesWildcard, startsWith_eq_true_iff, matchesWildcard_escaped_iff]
      simp only [inductionHypothesis]
  | case5 literal pattern notStar notOne noEscape inductionHypothesis =>
      have isLast : literal = '\\' → pattern = [] := by
        intro isBackslash
        cases pattern with
        | nil =>
            rfl
        | cons next rest =>
            exact (noEscape next rest isBackslash rfl).elim
      rw [matchesWildcard, startsWith_eq_true_iff,
        matchesWildcard_literal_iff notStar notOne isLast]
      · simp only [inductionHypothesis]
      exacts [notStar, notOne, noEscape]

instance
    (same : Char → Char → Prop)
    [DecidableRel same]
    (pattern text : List Char) :
    Decidable (MatchesWildcard same pattern text) :=
  decidable_of_iff (matchesWildcard (fun literal c => decide (same literal c)) pattern text = true)
    (by simp [matchesWildcard_eq_true_iff])

end Decision

end FacetSearch.Text
