import FacetSearch.Proofs.Schema.Lookup
import Mathlib.Data.List.Perm.Basic

namespace FacetSearch

/-!
# Registries as indices

A document type has a registry exactly if its fields can be told apart.  The
registry finds every declared field by its name and by its path, and finds
nothing else.  The chain of a field holds all the declared nested fields above
it.  None of this depends on the order in which fields are declared.
-/

namespace DocumentType

theorem WellFormed.of_perm
    {type reordered : DocumentType}
    (wellFormed : type.WellFormed)
    (permuted : reordered.fields.Perm type.fields) :
    reordered.WellFormed where
  namesFilled := fun field declared => wellFormed.namesFilled field (permuted.mem_iff.mp declared)
  namesNodup := (permuted.map FieldSpec.name).nodup_iff.mpr wellFormed.namesNodup
  pathsNodup := (permuted.map FieldSpec.path).nodup_iff.mpr wellFormed.pathsNodup

end DocumentType

theorem Text.isBlank_eq_false_iff
    {text : String} :
    isBlank text = false ↔ ∃ c ∈ text.toList, isWhiteSpace c = false := by
  simp [isBlank]

theorem FieldSpec.declaresNested_eq_true_iff
    {fields : List FieldSpec}
    {path : String} :
    declaresNested fields path = true ↔
      ∃ spec ∈ fields, spec.path = path ∧ spec.type = .nested := by
  simp [declaresNested, and_comm]

/-- A field lies under the same nested fields in whatever order those are declared. -/
theorem FieldSpec.resolve_eq_of_perm
    {fields fields' : List FieldSpec}
    (permuted : fields'.Perm fields)
    (spec : FieldSpec) :
    spec.resolve fields' = spec.resolve fields := by
  have sameNested : declaresNested fields' = declaresNested fields := by
    funext path
    exact permuted.any_eq
  rw [resolve, resolve, sameNested]

/--
The chain of a field holds the paths of exactly those declared nested fields that are
parents of its path, the shortest first.  What comes before a path in the chain is the
chain of the field there.
-/
structure Field.IsChained
    (registry : Registry)
    (field : Field) :
    Prop where
  mem_iff :
    ∀ path,
      path ∈ field.nested ↔
        Path.IsParent path field.path ∧
          ∃ spec ∈ registry.specs, spec.path = path ∧ spec.type = .nested
  shortest_first : field.nested.Pairwise fun outer inner => outer.length < inner.length
  closed :
    ∀ position path,
      field.nested[position]? = some path →
        ∃ ancestor,
          registry.fieldAt? path = some ancestor ∧
            ancestor.type = .nested ∧ ancestor.nested = field.nested.take position

namespace Registry

/-- Declared fields are found by name and by path, the same one by both, and nothing else is. -/
structure Indexes
    (registry : Registry)
    (specs : List FieldSpec) :
    Prop where
  found :
    ∀ spec ∈ specs,
      ∃ field ∈ registry.fields,
        field.spec = spec ∧
          field.path = spec.path ∧
          registry.field? spec.name = some field ∧
          registry.fieldAt? spec.path = some field
  named :
    ∀ name field, registry.field? name = some field → field.spec ∈ specs ∧ field.spec.name = name
  placed :
    ∀ path field, registry.fieldAt? path = some field → field.spec ∈ specs ∧ field.spec.path = path

variable {registry other : Registry} {field : Field}

/-- A registry is given exactly for document types whose fields can be told apart. -/
theorem exists_ofDocumentType_iff
    {type : DocumentType} :
    (∃ registry, ofDocumentType type = .ok registry) ↔ type.WellFormed := by
  constructor
  · intro isAccepted
    rcases isAccepted with ⟨registry, accepted⟩
    obtain rfl := ofDocumentType_eq_ok_iff.mp accepted
    exact registry.wellFormed
  · intro wellFormed
    exact ⟨⟨type, wellFormed⟩, ofDocumentType_eq_ok_iff.mpr rfl⟩

theorem spec_mem_of_mem_fields
    (declared : field ∈ registry.fields) :
    field.spec ∈ registry.specs := by
  obtain ⟨spec, member, rfl⟩ := List.mem_map.mp declared
  exact member

theorem indexes_specs : registry.Indexes registry.specs where
  found := by
    intro spec member
    have declared : spec.resolve registry.specs ∈ registry.fields :=
      List.mem_map.mpr ⟨spec, member, rfl⟩
    exact ⟨_, declared, rfl, rfl, field?_eq_some_iff.mpr ⟨declared, rfl⟩,
      fieldAt?_eq_some_iff.mpr ⟨declared, rfl⟩⟩
  named := by
    intro name field found
    obtain ⟨declared, sameName⟩ := field?_eq_some_iff.mp found
    exact ⟨spec_mem_of_mem_fields declared, sameName⟩
  placed := by
    intro path field found
    obtain ⟨declared, samePath⟩ := fieldAt?_eq_some_iff.mp found
    exact ⟨spec_mem_of_mem_fields declared, path_of_mem_fields declared ▸ samePath⟩

theorem mem_nested_iff
    (declared : field ∈ registry.fields)
    {path : String} :
    path ∈ field.nested ↔
      Path.IsParent path field.path ∧
        ∃ spec ∈ registry.specs, spec.path = path ∧ spec.type = .nested := by
  obtain ⟨spec, -, rfl⟩ := List.mem_map.mp declared
  rw [FieldSpec.resolve, List.mem_filter, Path.mem_parents_iff,
    FieldSpec.declaresNested_eq_true_iff]

theorem isChained_of_mem_fields
    (declared : field ∈ registry.fields) :
    field.IsChained registry where
  mem_iff := fun path => mem_nested_iff declared
  shortest_first := by
    obtain ⟨spec, -, rfl⟩ := List.mem_map.mp declared
    exact Path.pairwise_parents.filter _
  closed := by
    intro position path found
    obtain ⟨inBounds, rfl⟩ := List.getElem?_eq_some_iff.mp found
    have begins :
        field.nested.take position ++ [field.nested[position]] <+: field.nested := by
      rw [← List.take_succ_eq_append_getElem inBounds]
      exact List.take_prefix _ _
    obtain ⟨ancestor, ancestorDeclared, samePath, nestedType, chain⟩ :=
      everyStep_nested declared _ _ begins
    exact ⟨ancestor, fieldAt?_eq_some_iff.mpr ⟨ancestorDeclared, samePath⟩, nestedType, chain⟩

/-- Lookups do not depend on the order in which fields are declared. -/
theorem lookups_eq_of_perm
    (permuted : other.specs.Perm registry.specs) :
    (∀ name, other.field? name = registry.field? name) ∧
      ∀ path, other.fieldAt? path = registry.fieldAt? path := by
  have sameResolve : FieldSpec.resolve other.specs = FieldSpec.resolve registry.specs :=
    funext (FieldSpec.resolve_eq_of_perm permuted)
  constructor
  · intro name
    rw [field?, field?, sameResolve]
    exact congrArg _ (find?_eq_of_perm registry.wellFormed.namesNodup permuted name)
  · intro path
    rw [fieldAt?, fieldAt?, sameResolve]
    exact congrArg _ (find?_eq_of_perm registry.wellFormed.pathsNodup permuted path)

/--
A document type has a registry exactly if no field's name is blank and neither names nor
paths repeat.  The registry then is a faithful index of the fields with full chains, and
it finds the same fields in whatever order they are declared.
-/
theorem ofDocumentType_indexes_fields (type : DocumentType) :
    ((∃ registry, ofDocumentType type = .ok registry) ↔
        (∀ spec ∈ type.fields, ∃ c ∈ spec.name.toList, Text.isWhiteSpace c = false) ∧
          (type.fields.map FieldSpec.name).Nodup ∧
          (type.fields.map FieldSpec.path).Nodup) ∧
      ∀ registry,
        ofDocumentType type = .ok registry →
          registry.Indexes type.fields ∧
            (∀ field ∈ registry.fields, field.IsChained registry) ∧
            ∀ reordered : DocumentType,
              reordered.fields.Perm type.fields →
                ∃ other,
                  ofDocumentType reordered = .ok other ∧
                    (∀ name, other.field? name = registry.field? name) ∧
                    ∀ path, other.fieldAt? path = registry.fieldAt? path := by
  constructor
  · rw [exists_ofDocumentType_iff]
    simp only [← Text.isBlank_eq_false_iff]
    constructor
    · rintro ⟨filled, names, paths⟩
      exact ⟨filled, names, paths⟩
    · rintro ⟨filled, names, paths⟩
      exact ⟨filled, names, paths⟩
  · intro registry accepted
    obtain rfl := ofDocumentType_eq_ok_iff.mp accepted
    refine ⟨indexes_specs, fun field => isChained_of_mem_fields, ?_⟩
    intro reordered permuted
    obtain ⟨other, otherAccepted⟩ :=
      exists_ofDocumentType_iff.mpr (registry.wellFormed.of_perm permuted)
    obtain rfl := ofDocumentType_eq_ok_iff.mp otherAccepted
    exact ⟨other, otherAccepted, lookups_eq_of_perm permuted⟩

end Registry

/-- Cases whose fields stand below the fields that they belong to, before them. -/
def upwardCaseType : DocumentType where
  name := "cases"
  project := "demo"
  index := "cases"
  fields := [
    { name := "stage", sourcePath := some "donors.diagnoses.stage", type := .keyword,
      displayValues := none },
    { name := "donors__diagnoses", sourcePath := none, type := .nested, displayValues := none },
    { name := "people", sourcePath := some "donors", type := .nested, displayValues := none }]
  defaultSort := []
  idField := DocumentType.defaultIdField

/-- The same cases with their fields in the opposite order. -/
def downwardCaseType : DocumentType :=
  { upwardCaseType with fields := upwardCaseType.fields.reverse }

/-- The registry of cases whose fields are declared upwards. -/
def upwardCaseRegistry : Registry where
  documentType := upwardCaseType
  wellFormed := ⟨by decide +kernel, by decide +kernel, by decide +kernel⟩

/-- The stage of a diagnosis, with the fields that it lies under. -/
def stageField : Field where
  spec :=
    { name := "stage", sourcePath := some "donors.diagnoses.stage", type := .keyword,
      displayValues := none }
  path := "donors.diagnoses.stage"
  nested := ["donors", "donors.diagnoses"]

/-- Fields declared upwards and downwards are indexed alike. -/
theorem upward_and_downward_cases_indexed :
    Registry.ofDocumentType upwardCaseType = .ok upwardCaseRegistry ∧
      downwardCaseType.fields.Perm upwardCaseType.fields ∧
      upwardCaseRegistry.Indexes upwardCaseType.fields ∧
      stageField.IsChained upwardCaseRegistry ∧
      ∃ downwardCaseRegistry,
        Registry.ofDocumentType downwardCaseType = .ok downwardCaseRegistry ∧
          downwardCaseRegistry.field? "stage" = some stageField ∧
          downwardCaseRegistry.fieldAt? "donors.diagnoses.stage" = some stageField := by
  have accepted : Registry.ofDocumentType upwardCaseType = .ok upwardCaseRegistry :=
    Registry.ofDocumentType_eq_ok_iff.mpr rfl
  have permuted : downwardCaseType.fields.Perm upwardCaseType.fields :=
    List.reverse_perm _
  have declared : stageField ∈ upwardCaseRegistry.fields := by
    decide +kernel
  obtain ⟨indexed, chained, reordered⟩ :=
    (Registry.ofDocumentType_indexes_fields upwardCaseType).2 upwardCaseRegistry accepted
  obtain ⟨downwardCaseRegistry, downwardAccepted, sameNamed, samePlaced⟩ :=
    reordered downwardCaseType permuted
  refine ⟨accepted, permuted, indexed, chained _ declared, downwardCaseRegistry,
    downwardAccepted, ?_, ?_⟩
  · rw [sameNamed]
    decide +kernel
  · rw [samePlaced]
    decide +kernel

end FacetSearch
