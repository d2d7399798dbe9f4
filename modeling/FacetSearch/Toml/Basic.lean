import FacetSearch.Encoding

namespace FacetSearch

/-!
# TOML values

A TOML document is a table of tables.  A table remembers how it came to be,
because that decides in which ways it may be extended later in the document.
-/

/-- How a table came to be. -/
inductive TableOrigin where
  /-- It has a header of its own, or is an entry of an array of tables. -/
  | header
  /-- The header of a table inside it called for it. -/
  | implied
  /-- A dotted key called for it. -/
  | dotted
  deriving DecidableEq, Repr, Inhabited

/-- A TOML value. -/
inductive Toml where
  | text (value : String)
  | integer (value : Int)
  | float (value : Binary64)
  | boolean (value : Bool)
  /-- A date, a time or both, as written. -/
  | moment (value : String)
  | array (items : List Toml)
  /-- A table in braces; complete where it stands. -/
  | inline (members : List (String × Toml))
  | table (origin : TableOrigin) (members : List (String × Toml))
  /-- An array of tables, each with a header of its own. -/
  | tables (entries : List Toml)
  deriving Repr, Inhabited

namespace Toml

/-- The text of a string. -/
def text? : Toml → Option String
  | .text value => some value
  | _ => none

/-- The value of an integer. -/
def integer? : Toml → Option Int
  | .integer value => some value
  | _ => none

/-- The items of an array, or the tables of an array of tables. -/
def items? : Toml → Option (List Toml)
  | .array items => some items
  | .tables entries => some entries
  | _ => none

/-- The members of a table.  A moment has none of the names that a reader asks for. -/
def members? : Toml → Option (List (String × Toml))
  | .inline members => some members
  | .table _ members => some members
  | .moment _ => some []
  | _ => none

end Toml

instance : Encoding Toml where
  text? := Toml.text?
  integer? := Toml.integer?
  isAbsent? _ := some false
  items? := Toml.items?
  members? := Toml.members?
  choice? := Toml.text?
  listing := .surplus

end FacetSearch
