import FacetSearch.Error
import FacetSearch.Schema.DocumentType
import FacetSearch.Text.Blank

namespace FacetSearch

/-!
# Registries

A registry is a document type whose fields can be told apart: no name is
blank, and neither names nor source paths repeat.  Fields are looked up by name or
by path.  A field that lies under nested fields carries the chain of their
paths, outermost first.
-/

/-- The fields of a document type can be told apart by name and by path. -/
structure DocumentType.WellFormed (type : DocumentType) : Prop where
  namesFilled : ∀ field ∈ type.fields, Text.isBlank field.name = false
  namesNodup : (type.fields.map FieldSpec.name).Nodup
  pathsNodup : (type.fields.map FieldSpec.path).Nodup

namespace DocumentType

/-- The first fault among fields that follow the given earlier ones. -/
def faultAfter
    (type : String)
    (earlier : List FieldSpec) :
    List FieldSpec → Option ConfigFault
  | [] => none
  | field :: rest =>
      if Text.isBlank field.name then some (.blankField type)
      else if earlier.any (fun other => other.name == field.name) then
        some (.repeatedField type field.name)
      else
        match earlier.find? (fun other => other.path == field.path) with
        | some other => some (.sharedPath type other.name field.name field.path)
        | none => faultAfter type (field :: earlier) rest

/-- The first fault among the fields of a document type. -/
def fault? (type : DocumentType) : Option ConfigFault :=
  faultAfter type.name [] type.fields

/-- Fields that follow earlier ones are free of faults exactly when they add no clash. -/
theorem faultAfter_eq_none_iff
    {type : String}
    {earlier fields : List FieldSpec} :
    faultAfter type earlier fields = none ↔
      (∀ field ∈ fields, Text.isBlank field.name = false) ∧
        ((fields.map FieldSpec.name).Nodup ∧
          ∀ field ∈ fields, ∀ other ∈ earlier, other.name ≠ field.name) ∧
        ((fields.map FieldSpec.path).Nodup ∧
          ∀ field ∈ fields, ∀ other ∈ earlier, other.path ≠ field.path) := by
  induction fields generalizing earlier with
  | nil =>
      simp [faultAfter]
  | cons field rest inductionHypothesis =>
      unfold faultAfter
      by_cases blank : Text.isBlank field.name = true
      · simp [blank]
      · by_cases repeated : earlier.any (fun other => other.name == field.name) = true
        · simp only [blank, repeated]
          simp only [List.any_eq_true, beq_iff_eq] at repeated
          obtain ⟨other, member, sameName⟩ := repeated
          simp only [Bool.false_eq_true, ↓reduceIte, reduceCtorEq, false_iff]
          rintro ⟨-, ⟨-, noClash⟩, -⟩
          exact noClash field (by simp) other member sameName
        · cases found : earlier.find? (fun other => other.path == field.path) with
          | some other =>
              have member := List.mem_of_find?_eq_some found
              have samePath := List.find?_some found
              simp only [blank, repeated]
              simp only [Bool.false_eq_true, ↓reduceIte, reduceCtorEq, false_iff]
              rintro ⟨-, -, -, noClash⟩
              exact noClash field (by simp) other member (by simpa using samePath)
          | none =>
              have noPath : ∀ other ∈ earlier, other.path ≠ field.path := by
                intro other member
                have := List.find?_eq_none.mp found other member
                simpa using this
              have noName : ∀ other ∈ earlier, other.name ≠ field.name := by
                intro other member same
                exact repeated (List.any_eq_true.mpr ⟨other, member, by simpa using same⟩)
              simp only [blank, repeated]
              simp only [Bool.false_eq_true, ↓reduceIte, inductionHypothesis]
              simp only [List.map_cons, List.nodup_cons, List.mem_cons, List.mem_map,
                not_exists, not_and, forall_eq_or_imp]
              have filled : Text.isBlank field.name = false := by simpa using blank
              constructor
              · rintro ⟨names, ⟨namesNodup, nameApart⟩, pathsNodup, pathApart⟩
                exact ⟨⟨filled, names⟩,
                  ⟨⟨fun other member same => (nameApart other member).1 same.symm, namesNodup⟩,
                    noName, fun other member => (nameApart other member).2⟩,
                  ⟨fun other member same => (pathApart other member).1 same.symm, pathsNodup⟩,
                  noPath, fun other member => (pathApart other member).2⟩
              · rintro ⟨⟨-, names⟩, ⟨⟨nameFresh, namesNodup⟩, -, nameApart⟩,
                  ⟨pathFresh, pathsNodup⟩, -, pathApart⟩
                exact ⟨names,
                  ⟨namesNodup, fun other member =>
                    ⟨fun same => nameFresh other member same.symm, nameApart other member⟩⟩,
                  pathsNodup, fun other member =>
                    ⟨fun same => pathFresh other member same.symm, pathApart other member⟩⟩

/-- A document type is free of faults exactly when it is well formed. -/
theorem fault?_eq_none_iff {type : DocumentType} :
    type.fault? = none ↔ type.WellFormed := by
  unfold fault?
  rw [faultAfter_eq_none_iff]
  constructor
  · rintro ⟨names, ⟨namesNodup, -⟩, pathsNodup, -⟩
    exact ⟨names, namesNodup, pathsNodup⟩
  · rintro ⟨names, namesNodup, pathsNodup⟩
    exact ⟨names, ⟨namesNodup, by simp⟩, pathsNodup, by simp⟩

end DocumentType

/-- A field together with its place in documents. -/
structure Field where
  spec : FieldSpec
  /-- The dot path of the field in a source document. -/
  path : String
  /-- The paths of the nested fields around it, outermost first. -/
  nested : List String
  deriving DecidableEq, Repr

namespace Field

/-- The name of a field. -/
def name (field : Field) : String :=
  field.spec.name

/-- The type of a field. -/
def type (field : Field) : FieldType :=
  field.spec.type

/-- The innermost nested field around a field. -/
def scope? (field : Field) : Option String :=
  field.nested.getLast?

/-- Whether a field lies under a nested field. -/
def isNested (field : Field) : Bool :=
  !field.nested.isEmpty

end Field

namespace FieldSpec

/-- Whether some field of a list is nested and lives at a path. -/
def declaresNested
    (fields : List FieldSpec)
    (path : String) :
    Bool :=
  fields.any (fun field => field.type == .nested && field.path == path)

/-- A field with its path, and with those of its parents that are nested fields. -/
def resolve
    (fields : List FieldSpec)
    (spec : FieldSpec) :
    Field where
  spec := spec
  path := spec.path
  nested := (Path.parents spec.path).filter (declaresNested fields)

end FieldSpec

/-- A document type whose fields can be told apart. -/
@[ext]
structure Registry where
  documentType : DocumentType
  wellFormed : documentType.WellFormed

namespace Registry

/-- The registry of a document type, or its first fault. -/
def ofDocumentType (type : DocumentType) : Except Error Registry :=
  match check : type.fault? with
  | none => .ok ⟨type, DocumentType.fault?_eq_none_iff.mp check⟩
  | some fault => .error (.config fault)

/-- The registry of a document type is the only one that has it. -/
theorem ofDocumentType_eq_ok_iff
    {type : DocumentType}
    {registry : Registry} :
    ofDocumentType type = .ok registry ↔ registry.documentType = type := by
  unfold ofDocumentType
  split
  case h_1 check =>
      rw [Except.ok.injEq, eq_comm, Registry.ext_iff]
  case h_2 fault check =>
      simp only [reduceCtorEq, false_iff]
      rintro rfl
      rw [DocumentType.fault?_eq_none_iff.mpr registry.wellFormed] at check
      cases check

/-- The name of the document type. -/
def name (registry : Registry) : String :=
  registry.documentType.name

/-- The index that the document type searches. -/
def index (registry : Registry) : String :=
  registry.documentType.index

/-- The declared fields. -/
def specs (registry : Registry) : List FieldSpec :=
  registry.documentType.fields

/-- The declared fields with their places. -/
def fields (registry : Registry) : List Field :=
  registry.specs.map (FieldSpec.resolve registry.specs)

/-- The field of a name. -/
def field?
    (registry : Registry)
    (name : String) :
    Option Field :=
  (registry.specs.find? (fun spec => spec.name == name)).map
    (FieldSpec.resolve registry.specs)

/-- The field at a path. -/
def fieldAt?
    (registry : Registry)
    (path : String) :
    Option Field :=
  (registry.specs.find? (fun spec => spec.path == path)).map
    (FieldSpec.resolve registry.specs)

/-- The field of a name that is used at some place. -/
def resolve
    (registry : Registry)
    (name : String)
    (place : Location) :
    Except Error Field :=
  match registry.field? name with
  | some field => .ok field
  | none => .error (.unknownField name place)

end Registry

/-- The longest list that both lists start with. -/
def commonChainOfTwo : List String → List String → List String
  | first :: rest, first' :: rest' =>
      if first = first' then first :: commonChainOfTwo rest rest' else []
  | _, _ => []

/-- The longest chain that every chain starts with; empty when there is no chain. -/
def commonChain : List (List String) → List String
  | [] => []
  | first :: rest => rest.foldl commonChainOfTwo first

end FacetSearch
