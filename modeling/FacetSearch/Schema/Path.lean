namespace FacetSearch.Path

/-!
# Source paths

A field lives at a dot path inside a document.  Its parents are the parts of
the path before each of its dots.
-/

/-- Read every double underscore, from the left, as a dot. -/
def undouble : List Char → List Char
  | '_' :: '_' :: rest => '.' :: undouble rest
  | c :: rest => c :: undouble rest
  | [] => []

/-- The path of a field that is only known by its name. -/
def ofName (name : String) : String :=
  String.ofList (undouble name.toList)

/-- The parts of a path before each dot, shortest first. -/
def parentChars : List Char → List (List Char)
  | [] => []
  | c :: rest =>
      if c = '.' then [] :: (parentChars rest).map (c :: ·)
      else (parentChars rest).map (c :: ·)

/-- The parents of a path, shortest first. -/
def parents (path : String) : List String :=
  (parentChars path.toList).map String.ofList

/-- Cut a list of characters at every dot. -/
def segmentChars : List Char → List (List Char)
  | [] => [[]]
  | c :: rest =>
      if c = '.' then [] :: segmentChars rest
      else
        match segmentChars rest with
        | first :: others => (c :: first) :: others
        | [] => [[c]]

/-- The segments of a path. -/
def segments (path : String) : List String :=
  (segmentChars path.toList).map String.ofList

end FacetSearch.Path
