import FacetSearch.Entries
import FacetSearch.Files.Access

namespace FacetSearch

/-!
# Files in memory

A file system that is a value: a tree of files below one path, to which
relative paths refer as well.
-/

/-- A file or a directory. -/
inductive FileTree where
  | file (text : String)
  | directory (entries : List (String × FileTree))
  deriving Repr, Inhabited

namespace FileTree

/-- What lies at the end of a list of names. -/
def find? : List String → FileTree → Except FileFault FileTree
  | [], tree => .ok tree
  | _ :: _, .file _ => .error .notADirectory
  | name :: rest, .directory entries =>
      match Entries.lookup? name entries with
      | none => .error .notFound
      | some tree => tree.find? rest

/-- Put something at the end of a list of names, with the directories around it. -/
def put (content : FileTree) : List String → FileTree → Except FileFault FileTree
  | [], .directory _ =>
      match content with
      | .file _ => .error .isADirectory
      | .directory entries => .ok (.directory entries)
  | [], .file _ => .ok content
  | _ :: _, .file _ => .error .notADirectory
  | [name], .directory entries =>
      match Entries.lookup? name entries, content with
      | some (.directory _), .file _ => .error .isADirectory
      | _, content => .ok (.directory (Entries.insert name content entries))
  | name :: rest, .directory entries =>
      let below := (Entries.lookup? name entries).getD (.directory [])
      (put content rest below).map fun tree => .directory (Entries.insert name tree entries)

/-- Whether a tree is a directory. -/
def isDirectory : FileTree → Bool
  | .directory _ => true
  | .file _ => false

end FileTree

/-- A tree of files below a path. -/
structure MemoryFiles where
  root : String
  tree : FileTree

namespace MemoryFiles

/-- Cut a path at its slashes. -/
def cut : List Char → List (List Char)
  | [] => [[]]
  | c :: rest =>
      if c = '/' then [] :: cut rest
      else
        match cut rest with
        | first :: others => (c :: first) :: others
        | [] => [[c]]

/-- The names of a path, with steps to the directory above carried out. -/
def names (path : List Char) : List String :=
  (cut path).foldl
    (fun names part =>
      if part.isEmpty || part == ['.'] then names
      else if part == ['.', '.'] then names.dropLast
      else names ++ [String.ofList part])
    []

/-- The part of a path below the root; none for paths outside the tree. -/
def below? (files : MemoryFiles) (path : String) : Option (List Char) :=
  let chars := path.toList
  let root := files.root.toList
  let below := chars.drop root.length
  if root.isPrefixOf chars && (below.isEmpty || below.head? == some '/') then some below
  else if chars.head? = some '/' then none
  else some chars

/-- Go one step of a path on from a directory, given by the names that lead to it. -/
def step
    (tree : FileTree)
    (names : List String)
    (part : List Char) :
    Except FileFault (List String) :=
  match tree.find? names with
  | .error fault => .error fault
  | .ok (.file _) => .error .notADirectory
  | .ok (.directory _) =>
      if part.isEmpty || part == ['.'] then .ok names
      else if part == ['.', '.'] then .ok names.dropLast
      else .ok (names ++ [String.ofList part])

/-- What lies at a path, of which every step has to start from a directory. -/
def find? (files : MemoryFiles) (path : String) : Except FileFault FileTree :=
  match files.below? path with
  | none => .error .notFound
  | some below =>
      match (cut below).foldlM (step files.tree) [] with
      | .ok names => files.tree.find? names
      | .error fault => .error fault

/-- The text at a path. -/
def readText (files : MemoryFiles) (path : String) : Except FileFault String :=
  match files.find? path with
  | .ok (.file text) => .ok text
  | .ok (.directory _) => .error .isADirectory
  | .error fault => .error fault

/-- The entries of the directory at a path. -/
def entries (files : MemoryFiles) (path : String) : Except FileFault (List DirectoryEntry) :=
  match files.find? path with
  | .ok (.directory entries) =>
      .ok (entries.map fun entry => { name := entry.1, isDirectory := entry.2.isDirectory })
  | .ok (.file _) => .error .notADirectory
  | .error fault => .error fault

/-- The files with a text put at a path. -/
def writeText (files : MemoryFiles) (path text : String) : Except FileFault MemoryFiles :=
  match files.below? path with
  | none => .error .notFound
  | some below =>
      (FileTree.put (.file text) (names below) files.tree).map fun tree => { files with tree }

end MemoryFiles

instance : FileAccess (StateM MemoryFiles) where
  readText path := do
    let files ← get
    pure (files.readText path)
  entries path := do
    let files ← get
    pure (files.entries path)
  isPresent path := do
    let files ← get
    pure (match files.find? path with
      | .ok _ => true
      | .error _ => false)
  writeText path text := do
    let files ← get
    match files.writeText path text with
    | .error fault => pure (.error fault)
    | .ok written =>
        set written
        pure (.ok ())

end FacetSearch
