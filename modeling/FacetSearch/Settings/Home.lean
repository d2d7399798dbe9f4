namespace FacetSearch.Home

/-!
# The home directory

Paths may start with a tilde for the home directory.
-/

/-- Append a path to a directory; an absolute path replaces it. -/
def join
    (directory path : String) :
    String :=
  if path.toList.head? = some '/' then path
  else if directory.toList.getLast? = some '/' ∨ directory.isEmpty then directory ++ path
  else directory ++ "/" ++ path

/--
Read a leading `~/`, or a lone `~`, as the home directory.  There is no answer
when the home directory is needed and not known.
-/
def expand?
    (home : Option String)
    (path : String) :
    Option String :=
  match path.toList with
  | ['~'] => home
  | '~' :: '/' :: rest => home.map fun directory => join directory (String.ofList rest)
  | _ => some path

/-- The directory of the program's own data. -/
def dataDirectory (home : Option String) : String :=
  join (home.getD ".") ".quiver"

end FacetSearch.Home
