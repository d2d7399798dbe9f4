namespace FacetSearch.Text

/-!
# Wildcard patterns

In a pattern a star stands for any characters, a question mark for any one
character, and a backslash takes the meaning from the character behind it.
-/

/--
Whether a text matches a pattern, where `same` tells which characters count as
equal.  A backslash at the end of a pattern stands for itself.
-/
inductive MatchesWildcard (same : Char → Char → Prop) : List Char → List Char → Prop where
  | done : MatchesWildcard same [] []
  | star {pattern text : List Char} (skipped : List Char) :
      MatchesWildcard same pattern text →
        MatchesWildcard same ('*' :: pattern) (skipped ++ text)
  | one {pattern text : List Char} (c : Char) :
      MatchesWildcard same pattern text → MatchesWildcard same ('?' :: pattern) (c :: text)
  | escaped {pattern text : List Char} {literal c : Char} :
      same literal c → MatchesWildcard same pattern text →
        MatchesWildcard same ('\\' :: literal :: pattern) (c :: text)
  | literal {pattern text : List Char} {literal c : Char} :
      literal ≠ '*' → literal ≠ '?' → (literal = '\\' → pattern = []) →
        same literal c → MatchesWildcard same pattern text →
          MatchesWildcard same (literal :: pattern) (c :: text)

end FacetSearch.Text
