import FacetSearch.Facet.Spec
import FacetSearch.Plan
import FacetSearch.Settings.Basic
import FacetSearch.Sqon.Compile

namespace FacetSearch

/-!
# Planning facets

A facet counts against the request filter without the leaves on its own
field, so that choosing a value in a facet never hides the other values of
that facet.
-/

namespace RangeSpec

/-- The label of a bound in a default key. -/
def boundLabel : Option Json → String
  | none => "*"
  | some .null => "*"
  | some (.string text) => text
  | some value => value.render

/-- The key of a range: its own, or one made of its bounds. -/
def label (range : RangeSpec) : String :=
  range.key.getD (boundLabel range.lower ++ "-" ++ boundLabel range.upper)

/--
The bucket of a range on a source path.  The lower bound belongs to it; the
upper bound only in the last range.
-/
def bucket
    (path : String)
    (last : Bool)
    (range : RangeSpec) :
    RangeBucket where
  key := range.label
  clause :=
    match range.lower, range.upper with
    | none, none => .present path
    | lower, upper =>
        .range path (lower.map .closed) (upper.map (if last then .closed else .openEnd))

/-- The buckets of ranges, in order. -/
def buckets (path : String) : List RangeSpec → List RangeBucket
  | [] => []
  | [range] => [range.bucket path true]
  | range :: rest => range.bucket path false :: buckets path rest

end RangeSpec

namespace FacetSpec

/-- The number of buckets of a terms facet. -/
def termsSize
    (settings : FacetSettings)
    (facet : String) :
    Option UInt64 → Except Error UInt64
  | none => .ok settings.defaultTermsSize
  | some size =>
      if size = 0 ∨ settings.maxTermsSize < size then
        .error (.invalidFacet facet (.termsSize settings.maxTermsSize.toNat size.toNat))
      else .ok size

/-- The planned kind of a facet on a resolved field. -/
def planKind
    (settings : FacetSettings)
    (facet : String)
    (field : Field)
    (place : Location) :
    FacetKind → Except Error PlannedKind
  | .terms size =>
      if field.type.isContainer then
        .error (.typeMismatch .terms field.name field.type place)
      else (termsSize settings facet size).map .terms
  | .range ranges =>
      if !(field.type.isNumeric || field.type == .date) then
        .error (.typeMismatch .range field.name field.type place)
      else if ranges.isEmpty then .error (.invalidFacet facet .noRanges)
      else .ok (.range (RangeSpec.buckets field.path ranges))
  | .stats =>
      if !field.type.isNumeric then
        .error (.typeMismatch .stats field.name field.type place)
      else .ok .stats

/-- Plan one facet. -/
def plan
    (registry : Registry)
    (settings : FacetSettings)
    (maxDepth : Nat)
    (filter : Option Sqon)
    (facet : FacetSpec)
    (place : Location) :
    Except Error PlannedFacet :=
  match registry.resolve facet.field place with
  | .error failure => .error failure
  | .ok field =>
      match planKind settings facet.field field place facet.kind with
      | .error failure => .error failure
      | .ok kind =>
          (Sqon.compileOptional registry maxDepth
            (filter.bind (Sqon.without? facet.field))).map fun filter =>
              { facet := facet.field, field := field.path, filter, nested := field.nested, kind }

/-- Plan facets that follow earlier ones, the first of them at some position. -/
def planAfter
    (registry : Registry)
    (settings : FacetSettings)
    (maxDepth : Nat)
    (filter : Option Sqon)
    (earlier : List String)
    (position : Nat) :
    List FacetSpec → Except Error (List PlannedFacet)
  | [] => .ok []
  | facet :: rest =>
      if earlier.contains facet.field then .error (.invalidFacet facet.field .repeated)
      else
        match plan registry settings maxDepth filter facet (.entry "facets" position) with
        | .error failure => .error failure
        | .ok first =>
            match planAfter registry settings maxDepth filter (facet.field :: earlier)
              (position + 1) rest with
            | .error failure => .error failure
            | .ok others => .ok (first :: others)

/-- Plan one facet for each requested one, in order. -/
def planAll
    (registry : Registry)
    (settings : FacetSettings)
    (maxDepth : Nat)
    (filter : Option Sqon)
    (facets : List FacetSpec) :
    Except Error (List PlannedFacet) :=
  planAfter registry settings maxDepth filter [] 0 facets

end FacetSpec

end FacetSearch
