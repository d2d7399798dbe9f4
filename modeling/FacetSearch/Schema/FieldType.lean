namespace FacetSearch

/-!
# Field types

The types a field can be declared with, and the traits that decide which
operators, facets and sorts apply to it.
-/

/-- The declared type of a field. -/
inductive FieldType where
  | keyword
  | text
  | long
  | integer
  | double
  | float
  | date
  | boolean
  | nested
  | object
  deriving DecidableEq, Repr, Inhabited

namespace FieldType

/-- The name under which a type is configured and reported. -/
def name : FieldType → String
  | .keyword => "keyword"
  | .text => "text"
  | .long => "long"
  | .integer => "integer"
  | .double => "double"
  | .float => "float"
  | .date => "date"
  | .boolean => "boolean"
  | .nested => "nested"
  | .object => "object"

/-- Every type. -/
def all : List FieldType :=
  [.keyword, .text, .long, .integer, .double, .float, .date, .boolean, .nested, .object]

/-- The type of a name. -/
def ofName? (name : String) : Option FieldType :=
  all.find? (fun type => type.name == name)

/-- Types that hold text. -/
def isString : FieldType → Bool
  | .keyword | .text => true
  | _ => false

/-- Types that hold numbers. -/
def isNumeric : FieldType → Bool
  | .long | .integer | .double | .float => true
  | _ => false

/-- Types with a total order that the engine can range over. -/
def isRangeable (type : FieldType) : Bool :=
  type.isNumeric || type.isString || type == .date

/-- Types that hold sub-fields and carry no value of their own. -/
def isContainer : FieldType → Bool
  | .nested | .object => true
  | _ => false

/-- Types that documents can be sorted by: those with a single stored value. -/
def isSortable (type : FieldType) : Bool :=
  !type.isContainer && type != .text

/-- Every type is found under its own name. -/
theorem ofName?_name (type : FieldType) : ofName? type.name = some type := by
  cases type <;> decide

end FieldType

end FacetSearch
