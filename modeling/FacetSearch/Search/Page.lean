import FacetSearch.Indexed
import FacetSearch.Plan
import FacetSearch.Schema.Registry
import FacetSearch.Settings.Basic

namespace FacetSearch

/-!
# Pages

A page is a sort and a window.  Every sort ends on the field that identifies a
document, so that paging through equal sort keys is deterministic.
-/

/-- The window that a request asks for; signed, so that negative input can be refused. -/
structure PageRequest where
  first : Option Int64
  offset : Option Int64
  deriving DecidableEq, Repr, Inhabited

namespace PageRequest

/-- The first page of the default size. -/
def standard : PageRequest :=
  { first := none, offset := none }

/-- Read a page request. -/
def read? (value : Json) : Option PageRequest := do
  match ← Encoding.record? [["first"], ["offset"]] value with
  | [first, offset] =>
      some {
        first := ← Encoding.optional Encoding.signed64? first
        offset := ← Encoding.optional Encoding.signed64? offset
      }
  | _ => none

/-- The end of a window.  One beyond all numbers is the largest of them. -/
def windowEnd (start size : UInt64) : UInt64 :=
  .ofNatClamp (start.toNat + size.toNat)

/--
The start and the size of the requested window.  A default page size beyond
the signed range is taken by its bits, as a negative number.
-/
def window
    (settings : PageSettings)
    (request : PageRequest) :
    Except Error (UInt64 × UInt64) :=
  let first := request.first.getD settings.defaultPageSize.toInt64
  let offset := request.offset.getD 0
  if first < 0 then .error (.invalidPage (.negativeFirst first.toInt))
  else if offset < 0 then .error (.invalidPage (.negativeOffset offset.toInt))
  else
    let size := first.toUInt64
    let start := offset.toUInt64
    if settings.maxPageSize < size then
      .error (.invalidPage (.firstTooLarge size.toNat settings.maxPageSize.toNat))
    else if settings.maxResultWindow < windowEnd start size then
      .error (.invalidPage
        (.windowTooLarge start.toNat size.toNat settings.maxResultWindow.toNat))
    else .ok (start, size)

end PageRequest

namespace SortField

/-- The place of a requested sort. -/
def place (position : Nat) : Location :=
  .entry "sort" position

/--
The sort key of a requested sort.  The identifying field need not be declared;
every other field must be, with a type that can be sorted.
-/
def resolve
    (registry : Registry)
    (position : Nat)
    (sort : SortField) :
    Except Error SortKey :=
  let idField := registry.documentType.idField
  if sort.field = idField ∧ registry.field? idField = none then
    .ok { field := idField, direction := sort.direction, nested := [] }
  else
    match registry.resolve sort.field (place position) with
    | .error failure => .error failure
    | .ok field =>
        if field.type.isSortable then
          .ok { field := field.path, direction := sort.direction, nested := field.nested }
        else .error (.typeMismatch .sort field.name field.type (place position))

end SortField

namespace Registry

/-- The path that identifies a document. -/
def idPath (registry : Registry) : String :=
  match registry.field? registry.documentType.idField with
  | some field => field.path
  | none => registry.documentType.idField

/-- End a sort on the identifying path. -/
def breakTies
    (registry : Registry)
    (keys : List SortKey) :
    List SortKey :=
  if keys.getLast?.map SortKey.field = some registry.idPath then keys
  else keys ++ [{ field := registry.idPath, direction := .asc, nested := [] }]

/-- The sort of a request; the default sort when none is requested. -/
def sortKeys
    (registry : Registry)
    (requested : List SortField) :
    Except Error (List SortKey) :=
  let fields := if requested.isEmpty then registry.documentType.defaultSort else requested
  (Indexed.traverse (SortField.resolve registry) fields).map registry.breakTies

/-- The page that a request asks for. -/
def page
    (registry : Registry)
    (settings : PageSettings)
    (sort : List SortField)
    (request : PageRequest) :
    Except Error Page :=
  match request.window settings with
  | .error failure => .error failure
  | .ok (start, size) =>
      (registry.sortKeys sort).map fun sort => { sort, start, size }

end Registry

end FacetSearch
