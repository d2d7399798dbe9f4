import FacetSearch.Json.Basic
import FacetSearch.Schema.Path

namespace FacetSearch.Json

/-!
# Following paths through documents

A dot path leads from object to object.  An array on the way is followed item
by item: missing and `null` results are dropped and arrays of results are
spliced in.
-/

/-- What one item of an array contributes to the result of the array. -/
def spliced : Option Json → List Json
  | some (.array inner) => inner
  | some .null => []
  | none => []
  | some value => [value]

mutual
/-- Follow segments from a value. -/
def follow? (segments : List String) : Json → Option Json
  | .object members =>
      match segments with
      | [] => some (.object members)
      | segment :: rest => followMember? segment rest members
  | .array items =>
      match segments with
      | [] => some (.array items)
      | segment :: rest => some (.array (followItems (segment :: rest) items))
  | value =>
      match segments with
      | [] => some value
      | _ :: _ => none

/-- Follow segments from the member of a name. -/
def followMember?
    (segment : String)
    (rest : List String) :
    List (String × Json) → Option Json
  | [] => none
  | (name, value) :: others =>
      if name = segment then follow? rest value else followMember? segment rest others

/-- Follow segments from every item and gather the results. -/
def followItems (segments : List String) : List Json → List Json
  | [] => []
  | item :: rest => spliced (follow? segments item) ++ followItems segments rest
end

/-- The value at a dot path. -/
def extract?
    (source : Json)
    (path : String) :
    Option Json :=
  follow? (Path.segments path) source

end FacetSearch.Json
