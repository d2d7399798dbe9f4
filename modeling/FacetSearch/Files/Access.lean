import FacetSearch.Error

namespace FacetSearch

/-!
# Access to files

What the library asks of a file system.  Paths are texts with slashes between
their names.
-/

/-- An entry of a directory. -/
structure DirectoryEntry where
  name : String
  isDirectory : Bool
  deriving DecidableEq, Repr, Inhabited

/-- A file system. -/
class FileAccess (m : Type → Type) where
  /-- The text of a file. -/
  readText : String → m (Except FileFault String)
  /-- The entries of a directory, in any order. -/
  entries : String → m (Except FileFault (List DirectoryEntry))
  /-- Whether there is anything at a path. -/
  isPresent : String → m Bool
  /-- Write a file and the directories that it lies in. -/
  writeText : String → String → m (Except FileFault Unit)

namespace DirectoryEntry

/-- The characters behind the last dot, unless nothing stands in front of it. -/
def extension? (name : String) : Option String :=
  let reversed := name.toList.reverse
  match reversed.dropWhile (· != '.') with
  | '.' :: before =>
      if before.isEmpty then none
      else some (String.ofList (reversed.takeWhile (· != '.')).reverse)
  | _ => none

/-- Whether an entry holds a document type, going by its name. -/
def isDocumentType (entry : DirectoryEntry) : Bool :=
  extension? entry.name == some "yaml" || extension? entry.name == some "yml"

end DirectoryEntry

end FacetSearch
