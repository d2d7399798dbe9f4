import FacetSearch.CommandLine.Help
import FacetSearch.Elastic.Client
import FacetSearch.Files.DocumentTypes
import FacetSearch.Schema.Lint
import FacetSearch.Search.Service
import FacetSearch.Settings.File
import FacetSearch.Text.Quoted

namespace FacetSearch.CommandLine

/-!
# Running commands

What a command line does, and what it prints.  Files, the standard input and
the connection to the engine belong to a host.
-/

/-- How an exchange with the engine ended, and after how many milliseconds. -/
structure TimedExchange where
  delay : Nat
  exchange : Elastic.Exchange
  deriving DecidableEq, Repr

/-- What a command needs besides files. -/
class Host (m : Type → Type) extends FileAccess m where
  /-- The whole standard input. -/
  readInput : m (Except FileFault String)
  /--
  Exchange a request with the engine.  A host that gives up after the given
  milliseconds reports a longer delay.
  -/
  exchange : UInt64 → Elastic.Request → m TimedExchange

/-- Why a command failed. -/
inductive Failure where
  | noHome
  | settings (fault : SettingsFileFault)
  | requestFile (path : String) (fault : FileFault)
  | input (fault : FileFault)
  | requestText
  | sqonText
  | documentTypes (directory : String) (cause : Error)
  | engine (fault : Elastic.Fault)
  | search (cause : Error)
  | lint (failed : Nat)
  deriving DecidableEq, Repr

/-- The wording of a failure. -/
def Failure.message : Failure → String
  | .noHome => "Cannot determine home directory"
  | .settings fault => fault.message
  | .requestFile path _ => "Failed to read request file " ++ Text.quote path
  | .input fault => fault.message
  | .requestText => "Invalid search request JSON"
  | .sqonText => "Invalid SQON JSON"
  | .documentTypes directory _ => "Failed to load document types from " ++ Text.quote directory
  | .engine fault => fault.message
  | .search cause => cause.message
  | .lint failed => toString failed ++ " document type(s) failed lint"

/-- The wording of what is behind an error of the library. -/
def errorCauses : Error → List String
  | .file fault => [fault.message]
  | .yaml detail => [detail]
  | .json detail => [detail]
  | _ => []

/-- The wordings of what is behind a failure, the nearest first. -/
def Failure.causes : Failure → List String
  | .requestFile _ fault => [fault.message]
  | .documentTypes _ cause => cause.message :: errorCauses cause
  | .search cause => errorCauses cause
  | _ => []

/-- The part of an error output that lists causes; several causes are numbered. -/
def causesText : List String → String
  | [] => ""
  | [cause] => "\nCaused by:\n    " ++ cause ++ "\n"
  | causes =>
      "\nCaused by:\n" ++ String.join (causes.mapIdx fun position cause =>
        "    " ++ toString position ++ ": " ++ cause ++ "\n")

/-- What a command line leaves behind. -/
structure Report where
  code : UInt8
  output : String
  errors : String
  deriving DecidableEq, Repr, Inhabited

namespace Report

/-- A run that went well. -/
def success (output : String) : Report where
  code := 0
  output := output
  errors := ""

/-- A run that failed after it had printed something. -/
def failure (output : String) (failure : Failure) : Report where
  code := 1
  output := output
  errors := "Error: " ++ failure.message ++ "\n" ++ causesText failure.causes

/-- A run that a command line does not ask for. -/
def ofHalt (environment : Environment) : Halt → Report
  | .help topic => success (topic.page environment).text
  | .version => success "quiver 0.3.0\n"
  | .misuse reason =>
      { code := 2
        output := ""
        errors := "error: " ++ reason ++ "\n\nUsage: " ++ Topic.program.usage ++ "\n" }

end Report

section Commands

variable {m : Type → Type} [Monad m] [Host m]

/-- The outcome of a step that may fail. -/
abbrev Try (m : Type → Type) (α : Type) := ExceptT Failure m α

/-- Fail or go on with a known result. -/
def settled {α : Type} (result : Except Failure α) : Try m α :=
  ExceptT.mk (pure result)

/-- The text that a request is read from. -/
def requestText (path : String) : Try m String := do
  if path = "-" then
    match ← ExceptT.lift (Host.readInput (m := m)) with
    | .ok text => pure text
    | .error fault => throw (.input fault)
  else
    match ← ExceptT.lift (FileAccess.readText (m := m) path) with
    | .ok text => pure text
    | .error fault => throw (.requestFile path fault)

/-- The filter that is given as a text. -/
def filterOf : Option String → Except Failure (Option Json)
  | none => .ok none
  | some text =>
      match Json.parse? text with
      | some value => .ok (some value.normalize)
      | none => .error .sqonText

/-- The request of options that do not name a file. -/
def RequestOptions.toRequest (options : RequestOptions) : Except Failure SearchRequest :=
  (filterOf options.sqon).map fun sqon =>
    { SearchRequest.everything (options.project.getD "") (options.documentType.getD "") with
      sqon
      fields := options.fields
      facets := options.facets.map FacetSpec.terms
      page := { first := options.first, offset := options.offset } }

/-- The request that options ask for. -/
def buildRequest (options : RequestOptions) : Try m SearchRequest := do
  match options.request with
  | none => settled options.toRequest
  | some path =>
      match SearchRequest.parse? (← requestText path) with
      | some request => pure request
      | none => throw .requestText

/-- The service over the configured document types, and the client of its engine. -/
def openService (settings : Settings) : Try m (SearchService × Elastic.Client) := do
  let directory := settings.projects.directory
  let types ← ExceptT.adapt (Failure.documentTypes directory)
    (DocumentTypes.loadAll (m := m) directory)
  let store ← settled ((Store.ofTypes types).mapError .search)
  let client ← settled ((Elastic.Client.ofSettings settings.engine).mapError .engine)
  pure ({ store, settings }, client)

/-- Print the engine's request for a search request. -/
def runCompile (settings : Settings) (options : RequestOptions) : Try m String := do
  let request ← buildRequest options
  let (service, _) ← openService (m := m) settings
  let plan ← settled ((service.plan request).mapError .search)
  pure ("POST /" ++ plan.index ++ "/_search\n" ++
    (Elastic.Body.ofPlan plan).toJson.pretty ++ "\n")

/-- Run a search request and print its response. -/
def runSearch (settings : Settings) (options : RequestOptions) : Try m String := do
  let request ← buildRequest options
  let (service, client) ← openService (m := m) settings
  let patience := min client.timeout (service.timeout request)
  let ask (plan : Plan) : m Attempt := do
    let sent := client.request plan.index (Elastic.Body.ofPlan plan).toJson
    let timed ← Host.exchange patience sent
    pure { delay := timed.delay, answer := client.execute (fun _ => timed.exchange) plan }
  let result ← ExceptT.lift (service.searchThrough ask request)
  let response ← settled (result.mapError .search)
  pure (response.toJson.pretty ++ "\n")

/-- The lines that linting prints for a document type. -/
def lintLines (type : DocumentType) : String :=
  let issues := type.lint
  if issues.isEmpty then "ok    " ++ type.key.text ++ "\n"
  else
    "FAIL  " ++ type.key.text ++ "\n" ++
      String.join (issues.map fun issue => "        - " ++ issue.message ++ "\n")

/-- What linting prints for document types, and the number of failures. -/
def lintReport (types : List DocumentType) : String × Nat :=
  let flawed := (types.filter fun type => !type.lint.isEmpty).length
  let lines := String.join (types.map lintLines)
  let (conflict, failed) :=
    match Store.ofTypes types with
    | .ok _ => ("", flawed)
    | .error fault => ("FAIL  " ++ fault.message ++ "\n", flawed + 1)
  (lines ++ conflict ++ "\n" ++ toString types.length ++ " document types checked, " ++
    toString failed ++ " with issues\n", failed)

/-- The report of linting document types. -/
def lintOutcome (types : List DocumentType) : Report :=
  let (output, failed) := lintReport types
  if failed = 0 then .success output else .failure output (.lint failed)

/-- The settings that a command line names. -/
def loadSettings (home : Option String) (path : String) : Try m Settings := do
  match Home.expand? home path with
  | none => throw .noHome
  | some path => ExceptT.adapt Failure.settings (Settings.load (m := m) home path)

/-- Carry out a command. -/
def carryOut
    (home : Option String)
    (settings : Settings) :
    Command → Try m Report
  | .compile options => do pure (.success (← runCompile settings options))
  | .search options => do pure (.success (← runSearch settings options))
  | .lint none => do
      let types ← ExceptT.adapt Failure.search
        (DocumentTypes.loadAll (m := m) settings.projects.directory)
      pure (lintOutcome types)
  | .lint (some path) => do
      match Home.expand? home path with
      | none => throw .noHome
      | some directory => do
          let types ← ExceptT.adapt Failure.search (DocumentTypes.loadAll (m := m) directory)
          pure (lintOutcome types)

/-- Run a command line. -/
def run (environment : Environment) (arguments : List String) : m Report := do
  match Invocation.ofArguments environment arguments with
  | .error halt => pure (.ofHalt environment halt)
  | .ok invocation =>
      let attempt : Try m Report := do
        let settings ← loadSettings environment.home invocation.settingsFile
        carryOut environment.home settings invocation.command
      match ← attempt.run with
      | .ok report => pure report
      | .error failure => pure (.failure "" failure)

end Commands

end FacetSearch.CommandLine
