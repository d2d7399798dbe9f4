import FacetSearch.Proofs.Schema.Ancestors
import Mathlib.Data.List.Nodup

namespace FacetSearch

/-!
# Looking fields up

Neither names nor paths repeat among declared fields, so that the field of a
name, or at a path, is the only declared one that has it, in whatever order
fields are declared.
-/

/-- Where keys do not repeat, the item that is found by a key is the only one that has it. -/
theorem find?_eq_some_iff_of_nodup
    {α : Type}
    {items : List α}
    {keyOf : α → String}
    (distinct : (items.map keyOf).Nodup)
    {key : String}
    {item : α} :
    items.find? (fun item => keyOf item == key) = some item ↔ item ∈ items ∧ keyOf item = key := by
  constructor
  · intro found
    exact ⟨List.mem_of_find?_eq_some found, by simpa using List.find?_some found⟩
  · rintro ⟨member, rfl⟩
    cases found : items.find? fun other => keyOf other == keyOf item with
    | none =>
        have differs := List.find?_eq_none.mp found item member
        simp at differs
    | some other =>
        have same : keyOf other = keyOf item := by simpa using List.find?_some found
        rw [List.inj_on_of_nodup_map distinct (List.mem_of_find?_eq_some found) member same]

/-- Where keys do not repeat, the order of items is no matter to a search by key. -/
theorem find?_eq_of_perm
    {α : Type}
    {items items' : List α}
    {keyOf : α → String}
    (distinct : (items.map keyOf).Nodup)
    (reordered : items'.Perm items)
    (key : String) :
    items'.find? (fun item => keyOf item == key) = items.find? (fun item => keyOf item == key) := by
  have distinct' : (items'.map keyOf).Nodup := (reordered.map keyOf).nodup_iff.mpr distinct
  refine Option.ext fun item => ?_
  rw [find?_eq_some_iff_of_nodup distinct', find?_eq_some_iff_of_nodup distinct,
    reordered.mem_iff]

namespace Registry

variable {registry : Registry} {field : Field}

theorem path_of_mem_fields
    (declared : field ∈ registry.fields) :
    field.path = field.spec.path := by
  obtain ⟨spec, -, rfl⟩ := List.mem_map.mp declared
  rfl

theorem find?_map_resolve_eq_some_iff
    {keyOf : FieldSpec → String}
    (distinct : (registry.specs.map keyOf).Nodup)
    {key : String} :
    (registry.specs.find? (fun spec => keyOf spec == key)).map
          (FieldSpec.resolve registry.specs) =
        some field ↔
      field ∈ registry.fields ∧ keyOf field.spec = key := by
  simp only [fields, Option.map_eq_some_iff, List.mem_map, find?_eq_some_iff_of_nodup distinct]
  constructor
  · rintro ⟨spec, ⟨member, placed⟩, rfl⟩
    exact ⟨⟨spec, member, rfl⟩, placed⟩
  · rintro ⟨⟨spec, member, rfl⟩, placed⟩
    exact ⟨spec, ⟨member, placed⟩, rfl⟩

theorem field?_eq_some_iff
    {name : String} :
    registry.field? name = some field ↔ field ∈ registry.fields ∧ field.name = name :=
  find?_map_resolve_eq_some_iff registry.wellFormed.namesNodup

theorem fieldAt?_eq_some_iff
    {path : String} :
    registry.fieldAt? path = some field ↔ field ∈ registry.fields ∧ field.path = path := by
  rw [fieldAt?, find?_map_resolve_eq_some_iff registry.wellFormed.pathsNodup]
  refine and_congr_right fun declared => ?_
  rw [path_of_mem_fields declared]

/-- A field that is found by its name is the one at its path. -/
theorem fieldAt?_of_field?
    {name : String}
    (found : registry.field? name = some field) :
    registry.fieldAt? field.path = some field :=
  fieldAt?_eq_some_iff.mpr ⟨mem_fields_of_field? found, rfl⟩

end Registry

end FacetSearch
