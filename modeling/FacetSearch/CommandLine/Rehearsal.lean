import FacetSearch.CommandLine.Run
import FacetSearch.Files.Memory

namespace FacetSearch.CommandLine

/-!
# Rehearsed runs

A host that is a value: files in memory, a fixed standard input and an engine
that is a function.  It keeps the requests that the engine was sent.
-/

/-- The surroundings of a rehearsed run. -/
structure Rehearsal where
  files : MemoryFiles
  input : String
  engine : Elastic.Request → TimedExchange
  /-- The requests so far, in the order in which they were sent. -/
  sent : List Elastic.Request

namespace Rehearsal

/-- Act on the files of a rehearsal. -/
def onFiles {α : Type} (action : StateM MemoryFiles α) : StateM Rehearsal α := do
  let rehearsal ← get
  let (value, files) := action.run rehearsal.files
  set { rehearsal with files }
  pure value

end Rehearsal

instance : FileAccess (StateM Rehearsal) where
  readText path := Rehearsal.onFiles (FileAccess.readText path)
  entries path := Rehearsal.onFiles (FileAccess.entries path)
  isPresent path := Rehearsal.onFiles (FileAccess.isPresent path)
  writeText path text := Rehearsal.onFiles (FileAccess.writeText path text)

instance : Host (StateM Rehearsal) where
  readInput := do
    let rehearsal ← get
    pure (.ok rehearsal.input)
  exchange _ request := do
    let rehearsal ← get
    set { rehearsal with sent := rehearsal.sent ++ [request] }
    pure (rehearsal.engine request)

/-- Run a command line in surroundings, and return these as the run leaves them. -/
def rehearse
    (environment : Environment)
    (arguments : List String)
    (rehearsal : Rehearsal) :
    Report × Rehearsal :=
  (run (m := StateM Rehearsal) environment arguments).run rehearsal

end FacetSearch.CommandLine
