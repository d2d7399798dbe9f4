import FacetSearch.Encoding

namespace FacetSearch

/-!
# Requested facets

A facet counts documents by the value of one field: by its terms, by given
ranges, or as summary statistics.
-/

/-- A requested range, open on a side that has no bound. -/
structure RangeSpec where
  key : Option String
  lower : Option Json
  upper : Option Json
  deriving DecidableEq, Repr, Inhabited

/-- How a facet counts. -/
inductive FacetKind where
  | terms (size : Option UInt64)
  | range (ranges : List RangeSpec)
  | stats
  deriving DecidableEq, Repr, Inhabited

/-- A requested facet on a named field. -/
structure FacetSpec where
  field : String
  kind : FacetKind
  deriving DecidableEq, Repr, Inhabited

/-- A terms facet of the default size. -/
def FacetSpec.terms (field : String) : FacetSpec :=
  { field, kind := .terms none }

open Encoding in
/-- Read a range. -/
def RangeSpec.read? (value : Json) : Option RangeSpec := do
  match ← record? [["key"], ["from"], ["to"]] value with
  | [key, lower, upper] =>
      some {
        key := ← optional text? key
        lower := ← optional (fun bound => some (Json.normalize bound)) lower
        upper := ← optional (fun bound => some (Json.normalize bound)) upper
      }
  | _ => none

namespace FacetKind

/-- The names of the kinds, in the order of their numbers. -/
def names : List String :=
  ["terms", "range", "stats"]

/-- The name of a kind that is given by name or by number. -/
def tag? : Json → Option String
  | .string name => some name
  | .number (.integer (.ofNat position)) => names[position]?
  | _ => none

open Encoding in
/-- Read a kind from the members of a facet, of which the tag is one. -/
def read? (members : List (String × Json)) : Option FacetKind := do
  let tag ← (← slot? members ["type"]).bind tag?
  if tag = "terms" then
    some (.terms (← optional unsigned64? (← slot? members ["size"])))
  else if tag = "range" then
    some (.range (← required (listOf RangeSpec.read?) (← slot? members ["ranges"])))
  else if tag = "stats" then some .stats
  else none

end FacetKind

open Encoding in
/-- Read a facet. -/
def FacetSpec.read? (value : Json) : Option FacetSpec := do
  let members ← value.members?
  let field ← required text? (← slot? members ["field", "fieldName"])
  let kind ← FacetKind.read? members
  some { field, kind }

/-- Write a range, each part only where it is given. -/
def RangeSpec.toJson (range : RangeSpec) : Json :=
  .object
    (Json.optionalMember "key" .string range.key ++
      Json.optionalMember "from" id range.lower ++
      Json.optionalMember "to" id range.upper)

/-- The members that a kind contributes to a facet. -/
def FacetKind.toMembers : FacetKind → List (String × Json)
  | .terms size =>
      ("type", .string "terms") ::
        Json.optionalMember "size" (fun size => Json.nat size.toNat) size
  | .range ranges =>
      [("type", .string "range"), ("ranges", .array (ranges.map RangeSpec.toJson))]
  | .stats => [("type", .string "stats")]

/-- Write a facet. -/
def FacetSpec.toJson (facet : FacetSpec) : Json :=
  .object (("field", .string facet.field) :: facet.kind.toMembers)

end FacetSearch
