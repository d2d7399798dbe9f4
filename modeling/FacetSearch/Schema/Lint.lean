import FacetSearch.Schema.Registry

namespace FacetSearch

/-!
# Linting document types

A document type can be accepted and still not do what its author meant.  The
linter reports parents that are not declared, labels that can never be shown
and default sorts that are not by a declared field with values to sort by.
-/

/-- Something that is wrong, or suspicious, with a document type. -/
inductive LintIssue where
  | blankIndex
  | noFields
  /-- The document type is not accepted at all. -/
  | rejected (fault : Error)
  | parentIsValue (field parent : String) (type : FieldType)
  | parentUndeclared (field parent : String)
  | labelledContainer (field : String) (type : FieldType)
  | sortOnText (field : String)
  | sortOnContainer (field : String)
  | sortUndeclared (field : String)
  deriving DecidableEq, Repr

namespace LintIssue

/-- The wording of an issue. -/
def message : LintIssue → String
  | .blankIndex => "index must be set"
  | .noFields => "fields should have at least one field defined"
  | .rejected fault => fault.message
  | .parentIsValue field parent type =>
      "field '" ++ field ++ "' lives under '" ++ parent ++ "' which is a " ++ type.name ++
        " field, not an object"
  | .parentUndeclared field parent =>
      "field '" ++ field ++ "': parent path '" ++ parent ++
        "' is not declared; nesting cannot be detected"
  | .labelledContainer field type =>
      "field '" ++ field ++ "' is a " ++ type.name ++
        " container and cannot carry display values"
  | .sortOnText field =>
      "default sort field '" ++ field ++ "' is a text field and cannot be sorted"
  | .sortOnContainer field => "default sort field '" ++ field ++ "' is a container"
  | .sortUndeclared field => "default sort field '" ++ field ++ "' is not declared"

end LintIssue

namespace Lint

/-- The issue with a parent of a field's path, if there is one. -/
def parentIssue
    (registry : Registry)
    (field parent : String) :
    Option LintIssue :=
  match registry.fieldAt? parent with
  | none => some (.parentUndeclared field parent)
  | some container =>
      if container.type.isContainer then none
      else some (.parentIsValue field parent container.type)

/-- The issues with a field: those with its parents, then that with its labels. -/
def fieldIssues
    (registry : Registry)
    (field : Field) :
    List LintIssue :=
  (Path.parents field.path).filterMap (parentIssue registry field.name) ++
    if field.spec.displayValues.isSome && field.type.isContainer then
      [.labelledContainer field.name field.type]
    else []

/-- The issue with a default sort, if there is one. -/
def sortIssue
    (registry : Registry)
    (sort : SortField) :
    Option LintIssue :=
  match registry.field? sort.field with
  | none => some (.sortUndeclared sort.field)
  | some field =>
      if field.type = .text then some (.sortOnText sort.field)
      else if field.type.isContainer then some (.sortOnContainer sort.field)
      else none

/-- The issues with an accepted document type. -/
def registryIssues (registry : Registry) : List LintIssue :=
  registry.fields.flatMap (fieldIssues registry) ++
    registry.documentType.defaultSort.filterMap (sortIssue registry)

/-- The issues that do not depend on the declared fields. -/
def outlineIssues (type : DocumentType) : List LintIssue :=
  (if Text.isBlank type.index then [.blankIndex] else []) ++
    if type.fields.isEmpty then [.noFields] else []

end Lint

/-- The issues with a document type; none when all is well. -/
def DocumentType.lint (type : DocumentType) : List LintIssue :=
  Lint.outlineIssues type ++
    match Registry.ofDocumentType type with
    | .error fault => [.rejected fault]
    | .ok registry => Lint.registryIssues registry

end FacetSearch
