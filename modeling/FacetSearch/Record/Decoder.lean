import FacetSearch.Engine.Answer
import FacetSearch.Encoding
import FacetSearch.Indexed
import FacetSearch.Json.Printer
import FacetSearch.Record.Extract
import FacetSearch.Schema.Registry

namespace FacetSearch

/-!
# Records

A hit becomes a record: its id and the requested fields under their own names,
with raw values replaced by their labels.
-/

/-- A decoded hit; the fields are sorted by name. -/
structure Record where
  id : String
  fields : List (String × Json)
  deriving DecidableEq, Repr, Inhabited

namespace Labels

/-- The text under which a scalar is labelled. -/
def rawText : Json → String
  | .string text => text
  | value => value.render

mutual
/-- Replace a scalar by its label, if it has one, and every item of an array. -/
def display (labels : Labels) : Json → Json
  | .array items => .array (displayAll labels items)
  | .null => .null
  | value =>
      match Entries.lookup? (rawText value) labels with
      | some label => .string label
      | none => value

/-- Replace every item of a list. -/
def displayAll (labels : Labels) : List Json → List Json
  | [] => []
  | item :: rest => display labels item :: displayAll labels rest
end

end Labels

namespace Field

/-- The value that a record shows for a field. -/
def valueIn
    (field : Field)
    (source : Json) :
    Json :=
  let raw := (source.extract? field.path).getD .null
  match field.spec.displayValues with
  | some labels => labels.display raw
  | none => raw

end Field

namespace Record

/-- Resolve the requested fields. -/
def resolveFields
    (registry : Registry)
    (requested : List String) :
    Except Error (List Field) :=
  Indexed.traverse
    (fun position name => registry.resolve name (.entry "fields" position))
    requested

/-- Keep the first of equal paths. -/
def distinctPaths : List Field → List String → List String
  | [], paths => paths
  | field :: rest, paths =>
      distinctPaths rest (if paths.contains field.path then paths else paths ++ [field.path])

/-- The source paths that decoding needs. -/
def sourceFields (fields : List Field) : List String :=
  distinctPaths fields []

/-- Decode a hit. -/
def ofHit
    (fields : List Field)
    (hit : RawHit) :
    Record where
  id := hit.id
  fields :=
    fields.foldl
      (fun members field => Entries.insert field.name (field.valueIn hit.source) members) []

/-- The members of a written record: the id, then the fields. -/
def toMembers (record : Record) : List (String × Json) :=
  ("id", .string record.id) :: record.fields

/-- Write a record. -/
def toJson (record : Record) : Json :=
  .object record.toMembers

/-- Read a record: the id, and every other member as a field. -/
def read? (value : Json) : Option Record := do
  let members ← value.members?
  let id ← Encoding.required Json.text? (← Encoding.slot? members ["id"])
  some {
    id
    fields :=
      Json.normalizeMembers (members.filter fun member => member.1 != "id") []
  }

end Record

end FacetSearch
