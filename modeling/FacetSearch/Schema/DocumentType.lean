import FacetSearch.Encoding
import FacetSearch.Schema.FieldType
import FacetSearch.Schema.Path

namespace FacetSearch

/-!
# Document types

A document type is a searchable view of one index: its fields, the sort that
applies when a request asks for none, and the field that identifies a
document.
-/

/-- A direction to sort in. -/
inductive SortDirection where
  | asc
  | desc
  deriving DecidableEq, Repr, Inhabited

namespace SortDirection

/-- The name of a direction. -/
def name : SortDirection → String
  | .asc => "asc"
  | .desc => "desc"

/-- The direction of a name. -/
def ofName? (name : String) : Option SortDirection :=
  if name = "asc" then some .asc
  else if name = "desc" then some .desc
  else none

end SortDirection

/-- A sort by one field, given by its name. -/
structure SortField where
  field : String
  direction : SortDirection
  deriving DecidableEq, Repr, Inhabited

/-- The labels of a field's values, sorted by value. -/
abbrev Labels := List (String × String)

/-- A declared field. -/
structure FieldSpec where
  name : String
  /-- An explicit source path; without one the path is read off the name. -/
  sourcePath : Option String
  type : FieldType
  /-- The labels shown in place of raw values. -/
  displayValues : Option Labels
  deriving DecidableEq, Repr, Inhabited

/-- The source path of a field. -/
def FieldSpec.path (field : FieldSpec) : String :=
  field.sourcePath.getD (Path.ofName field.name)

/-- A searchable view of one index, as configured for a project. -/
structure DocumentType where
  name : String
  project : String
  index : String
  fields : List FieldSpec
  defaultSort : List SortField
  /-- The field that identifies a document and breaks ties between equal sort keys. -/
  idField : String
  deriving DecidableEq, Repr, Inhabited

section Reading

open Encoding

variable {α : Type} [Encoding α]

/-- Read a direction. -/
def SortDirection.read? (value : α) : Option SortDirection :=
  (choice? value).bind ofName?

/-- The names of the members of a sort. -/
def SortField.memberNames : List (List String) :=
  [["field", "fieldName"], ["direction", "order"]]

/-- Read a sort, ascending when no direction is given. -/
def SortField.read? (value : α) : Option SortField := do
  match ← record? SortField.memberNames value with
  | [field, direction] =>
      some {
        field := ← required text? field
        direction := ← defaulted .asc SortDirection.read? direction
      }
  | _ => none

/-- Read the labels of a field. -/
def Labels.read? (value : α) : Option Labels :=
  mapOf text? value

/-- The names of the members of a field. -/
def FieldSpec.memberNames : List (List String) :=
  [["name", "fieldName"], ["es_path", "esPath"], ["type"], ["display_values", "displayValues"]]

/-- Read a field. -/
def FieldSpec.read? (value : α) : Option FieldSpec := do
  match ← record? FieldSpec.memberNames value with
  | [name, path, type, labels] =>
      some {
        name := ← required text? name
        sourcePath := ← optional text? path
        type := ← required (fun value => (choice? value).bind FieldType.ofName?) type
        displayValues := ← optional Labels.read? labels
      }
  | _ => none

/-- The field that identifies documents when none is configured. -/
def DocumentType.defaultIdField : String := "_id"

/-- The names of the members of a document type. -/
def DocumentType.memberNames : List (List String) :=
  [["name"], ["project"], ["index"], ["fields"], ["default_sort", "defaultSort"],
    ["id_field", "idField"]]

/-- Read a document type. -/
def DocumentType.read? (value : α) : Option DocumentType := do
  match ← record? DocumentType.memberNames value with
  | [name, project, index, fields, sort, id] =>
      some {
        name := ← required text? name
        project := ← defaulted "" text? project
        index := ← required text? index
        fields := ← required (listOf FieldSpec.read?) fields
        defaultSort := ← defaulted [] (listOf SortField.read?) sort
        idField := ← defaulted DocumentType.defaultIdField text? id
      }
  | _ => none

end Reading

/-- Write a sort. -/
def SortField.toJson (sort : SortField) : Json :=
  .object [("field", .string sort.field), ("direction", .string sort.direction.name)]

/-- Write labels as an object. -/
def Labels.toJson (labels : Labels) : Json :=
  .object (labels.map fun (value, label) => (value, .string label))

/-- Write a field; a path and labels only where they are given. -/
def FieldSpec.toJson (field : FieldSpec) : Json :=
  .object
    ([("name", .string field.name)] ++
      Json.optionalMember "es_path" .string field.sourcePath ++
      [("type", .string field.type.name)] ++
      Json.optionalMember "display_values" Labels.toJson field.displayValues)

/-- Write a document type. -/
def DocumentType.toJson (type : DocumentType) : Json :=
  .object [
    ("name", .string type.name),
    ("project", .string type.project),
    ("index", .string type.index),
    ("fields", .array (type.fields.map FieldSpec.toJson)),
    ("default_sort", .array (type.defaultSort.map SortField.toJson)),
    ("id_field", .string type.idField)]

end FacetSearch
