import FacetSearch.Yaml.Tag

namespace FacetSearch.Yaml

/-!
# YAML tokens

The text of a document is cut into tokens.  Indentation is explicit in them:
every block has a token where it opens and one where it closes.
-/

/-- A token. -/
inductive Token where
  | streamEnd
  | versionDirective (major minor : Nat)
  /-- A shorthand for the start of tags. -/
  | tagDirective (handle : String) (start : Tag)
  | documentStart
  | documentEnd
  | blockSequenceStart
  | blockMappingStart
  | blockEnd
  | flowSequenceStart
  | flowSequenceEnd
  | flowMappingStart
  | flowMappingEnd
  | blockEntry
  | flowEntry
  | key
  | value
  | alias (name : String)
  | anchor (name : String)
  | tag (handle : String) (suffix : Tag)
  | scalar (text : String) (isPlain : Bool)
  deriving DecidableEq, Repr, Inhabited

end FacetSearch.Yaml
