import FacetSearch.Files.Access
import FacetSearch.Schema.DocumentType
import FacetSearch.Settings.Home
import FacetSearch.Yaml.Tree

namespace FacetSearch

/-!
# Files of document types

Document types lie in YAML files in a directory for each project, below one
directory for all of them.  The project of a document type is the name of the
directory that it lies in.
-/

/-- What is looked at in a sort. -/
def SortField.shape : Yaml.Shape :=
  .record (SortField.memberNames.zip [.scalar, .scalar])

/-- What is looked at in a field. -/
def FieldSpec.shape : Yaml.Shape :=
  .record (FieldSpec.memberNames.zip [.scalar, .scalar, .scalar, .mapping .scalar])

/-- What is looked at in a document type. -/
def DocumentType.shape : Yaml.Shape :=
  .record (DocumentType.memberNames.zip
    [.scalar, .scalar, .scalar, .sequence FieldSpec.shape, .sequence SortField.shape, .scalar])

/-- The document type that the text of a file holds. -/
def DocumentType.ofFileText (text : String) : Except Error DocumentType :=
  match (Yaml.parse? DocumentType.shape text).bind DocumentType.read? with
  | some type => .ok type
  | none => .error (.yaml "not a document type")

namespace DocumentTypes

variable {m : Type → Type} [Monad m] [FileAccess m]

/-- Turn a failed access into an error of the library. -/
def access {α : Type} (action : m (Except FileFault α)) : ExceptT Error m α :=
  ExceptT.mk do
    let result ← action
    pure (result.mapError .file)

/-- Load the document type of one file. -/
def loadFile (path : String) : ExceptT Error m DocumentType := do
  let text ← access (FileAccess.readText path)
  ExceptT.mk (pure (DocumentType.ofFileText text))

/-- The entries of a directory in the order of their names. -/
def sortedEntries (path : String) : ExceptT Error m (List DirectoryEntry) := do
  let entries ← access (FileAccess.entries path)
  pure (entries.mergeSort fun left right => left.name ≤ right.name)

/-- Load the document types among the entries of a project. -/
def loadEntries
    (directory project : String) :
    List DirectoryEntry → ExceptT Error m (List DocumentType)
  | [] => pure []
  | entry :: rest =>
      if entry.isDocumentType then do
        let type ← loadFile (Home.join directory entry.name)
        let others ← loadEntries directory project rest
        pure ({ type with project } :: others)
      else loadEntries directory project rest

/-- Load the document types of every project among the entries of a directory. -/
def loadProjects (directory : String) :
    List DirectoryEntry → ExceptT Error m (List DocumentType)
  | [] => pure []
  | entry :: rest =>
      if entry.isDirectory then do
        let path := Home.join directory entry.name
        let types ← loadEntries path entry.name (← sortedEntries path)
        let others ← loadProjects directory rest
        pure (types ++ others)
      else loadProjects directory rest

/-- Load all document types below a directory. -/
def loadAll (directory : String) : ExceptT Error m (List DocumentType) := do
  if ← ExceptT.lift (FileAccess.isPresent directory) then
    loadProjects directory (← sortedEntries directory)
  else throw (.config (.missingDirectory directory))

end DocumentTypes

end FacetSearch
