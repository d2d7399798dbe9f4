import FacetSearch.Proofs.Entries
import FacetSearch.Proofs.Indexed
import FacetSearch.Record.Decoder

namespace FacetSearch

/-!
# Decoded records

A hit is decoded by fields that were resolved before the engine was asked, so
that decoding cannot fail: a record has one member for each requested field,
also where the source has no value for it.
-/

namespace Registry

variable {registry : Registry} {name : String} {field : Field}

theorem resolve_eq_ok_iff
    {place : Location} :
    registry.resolve name place = .ok field ↔ registry.field? name = some field := by
  rw [resolve]
  cases registry.field? name <;> simp

/-- A field is found under its own name. -/
theorem name_of_field?
    (found : registry.field? name = some field) :
    field.name = name := by
  obtain ⟨spec, foundSpec, rfl⟩ := Option.map_eq_some_iff.mp found
  have named := List.find?_some foundSpec
  exact beq_iff_eq.mp named

end Registry

namespace Record

variable {fields : List Field}

/-- The resolved fields have the requested names, in the requested order. -/
theorem names_of_resolveFields
    {registry : Registry}
    {requested : List String}
    (resolved : resolveFields registry requested = .ok fields) :
    fields.map Field.name = requested := by
  have found : List.Forall₂ (fun name field => field.name = name) requested fields := by
    refine (Indexed.forall₂_of_traverseFrom resolved).imp ?_
    intro name field resolves
    obtain ⟨position, resolvesAt⟩ := resolves
    exact Registry.name_of_field? (Registry.resolve_eq_ok_iff.mp resolvesAt)
  rw [← List.forall₂_eq_eq_eq, List.forall₂_map_left_iff]
  exact found.flip

theorem fields_ofHit
    {hit : RawHit} :
    (ofHit fields hit).fields =
      Entries.ofList (fields.map fun field => (field.name, field.valueIn hit.source)) :=
  Entries.foldl_insert_eq_insertAll

/-- A record of a hit: its id, and each of the requested fields once. -/
structure IsOf
    (requested : List String)
    (hit : RawHit)
    (record : Record) :
    Prop where
  id : record.id = hit.id
  fields : Entries.HasKeys record.fields requested

theorem isOf_ofHit
    {hit : RawHit} :
    (ofHit fields hit).IsOf (fields.map Field.name) hit where
  id := rfl
  fields := by
    have entered : Entries.HasKeys (ofHit fields hit).fields _ :=
      fields_ofHit ▸ Entries.hasKeys_ofList
    rwa [List.map_map] at entered

end Record

end FacetSearch
