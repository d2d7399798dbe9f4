import FacetSearch.Encoding
import FacetSearch.Yaml.Tag

namespace FacetSearch

/-!
# YAML trees

What a reader sees of a YAML document.  Every scalar can be read as a text;
whether it was written plainly only matters where a value may be absent or
empty.
-/

/-- A tree of YAML values. -/
inductive Yaml where
  | scalar (tag : Option Yaml.Tag) (text : String) (isPlain : Bool)
  | sequence (items : List Yaml)
  | mapping (members : List (String × Yaml))
  deriving Repr, Inhabited

namespace Yaml

/-- The text of a scalar. -/
def text? : Yaml → Option String
  | .scalar _ text _ => some text
  | _ => none

/-- The words for nothing. -/
def isNullWord (text : String) : Bool :=
  ["~", "null", "Null", "NULL"].contains text

/-- Whether a scalar without a tag says nothing. -/
def saysNothing (text : String) (isPlain : Bool) : Bool :=
  isPlain && (text.isEmpty || isNullWord text)

/--
Whether a value stands for an absent one.  A plain scalar that is tagged as
nothing has to be one of the words for it.
-/
def isAbsent? : Yaml → Option Bool
  | .scalar none text isPlain => some (saysNothing text isPlain)
  | .scalar (some tag) text isPlain =>
      if isPlain && tag == Tag.null then if isNullWord text then some true else none
      else some false
  | _ => some false

/-- Whether a value is a plain scalar with an empty text: an empty collection of any kind. -/
def isUnwritten : Yaml → Bool
  | .scalar _ text isPlain => isPlain && text.isEmpty
  | _ => false

/-- The items of a sequence. -/
def items? : Yaml → Option (List Yaml)
  | .sequence items => some items
  | value => if value.isUnwritten then some [] else none

/-- The members of a mapping. -/
def members? : Yaml → Option (List (String × Yaml))
  | .mapping members => some members
  | value => if value.isUnwritten then some [] else none

/-- The name of an alternative: the one that a tag in front of nothing selects, or a scalar. -/
def choice? : Yaml → Option String
  | .scalar tag text isPlain =>
      match tag.bind Tag.name? with
      | some name => if saysNothing text isPlain then some name else none
      | none => some text
  | _ => none

end Yaml

instance : Encoding Yaml where
  text? := Yaml.text?
  integer? _ := none
  isAbsent? := Yaml.isAbsent?
  items? := Yaml.items?
  members? := Yaml.members?
  choice? := Yaml.choice?
  listing := .refused

end FacetSearch
