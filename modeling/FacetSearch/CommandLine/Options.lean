import FacetSearch.Entries
import FacetSearch.Text.Ascii

namespace FacetSearch.CommandLine

/-!
# Command lines

A command line names a settings file, a command, and the options of the
command.  Options are given by a long name or a letter, with their value behind
an equals sign or as the next argument.
-/

/-- What an option takes for a value. -/
inductive ValueKind where
  | text
  /-- A text that is not empty. -/
  | path
  /-- A number of 64 bits with a sign. -/
  | number
  deriving DecidableEq, Repr, Inhabited

/-- An option that a command accepts; each takes a value. -/
structure OptionSpec where
  name : String
  letter : Option Char
  /-- Whether it may be given several times. -/
  isRepeatable : Bool
  kind : ValueKind
  /-- What it is for. -/
  about : String
  deriving Repr, Inhabited

/-- An option with a value. -/
abbrev Given := String × String

/-- What there is help on. -/
inductive Topic where
  | program
  | compile
  | search
  | lint
  | help
  deriving DecidableEq, Repr, Inhabited

/-- What a list of arguments asks for besides a run. -/
inductive Halt where
  | help (topic : Topic)
  | version
  | misuse (reason : String)
  deriving DecidableEq, Repr

/-- Whether an argument is taken for an option where a value is expected. -/
def looksLikeOption (argument : String) : Bool :=
  match argument.toList with
  | '-' :: _ :: _ => true
  | _ => false

/-- The number that a text writes with an optional sign. -/
def signedText? (text : String) : Option Int :=
  let (negative, digits) :=
    match text.toList with
    | '-' :: rest => (true, rest)
    | '+' :: rest => (false, rest)
    | chars => (false, chars)
  if !digits.isEmpty && digits.all Text.isDigit then
    let value : Int := Text.digitsValue digits
    some (if negative then -value else value)
  else none

/-- The number of 64 bits that a text writes. -/
def number? (text : String) : Option Int64 :=
  (signedText? text).bind fun value =>
    if Int64.minValue.toInt ≤ value ∧ value ≤ Int64.maxValue.toInt then some (Int64.ofInt value)
    else none

/-- Whether a text is a value of a kind. -/
def ValueKind.accepts : ValueKind → String → Bool
  | .text, _ => true
  | .path, value => !value.isEmpty
  | .number, value => (number? value).isSome

/-- Record a value of an option. -/
def record (spec : OptionSpec) (value : String) (given : List Given) :
    Except Halt (List Given) :=
  if !spec.kind.accepts value then
    .error (.misuse ("invalid value for --" ++ spec.name))
  else if !spec.isRepeatable && (Entries.lookup? spec.name given).isSome then
    .error (.misuse ("--" ++ spec.name ++ " cannot be used multiple times"))
  else .ok (given ++ [(spec.name, value)])

/-- The value of an option: attached to it, or the next argument. -/
def valueOf (spec : OptionSpec) :
    Option String → List String → Except Halt (String × List String)
  | some value, rest => .ok (value, rest)
  | none, value :: rest =>
      if looksLikeOption value then
        .error (.misuse ("a value is required for --" ++ spec.name))
      else .ok (value, rest)
  | none, [] => .error (.misuse ("a value is required for --" ++ spec.name))

/-- An option of an argument: the long name or the letter, and an attached value. -/
inductive Shape where
  | long (name : String) (attached : Option String)
  | short (letter : Char) (attached : Option String)
  | separator
  | plain
  deriving DecidableEq, Repr

/-- Split a long option at its first equals sign. -/
def splitLong (body : List Char) : Shape :=
  let name := String.ofList (body.takeWhile (· != '='))
  match body.dropWhile (· != '=') with
  | _ :: value => .long name (some (String.ofList value))
  | [] => .long name none

/-- The shape of an argument. -/
def shapeOf (argument : String) : Shape :=
  match argument.toList with
  | ['-', '-'] => .separator
  | '-' :: '-' :: body => splitLong body
  | ['-', letter] => .short letter none
  | '-' :: letter :: '=' :: value => .short letter (some (String.ofList value))
  | '-' :: letter :: value => .short letter (some (String.ofList value))
  | _ => .plain

/-- The halts that an option can ask for; only the program itself has a version. -/
def haltOf? (topic : Topic) : Shape → Option Halt
  | .long "help" none => some (.help topic)
  | .short 'h' _ => some (.help topic)
  | .long "version" none => if topic = .program then some .version else none
  | .short 'V' _ => if topic = .program then some .version else none
  | _ => none

/-- The specification of an option. -/
def specOf? (specs : List OptionSpec) : Shape → Option (OptionSpec × Option String)
  | .long name attached => (specs.find? (·.name == name)).map (·, attached)
  | .short letter attached => (specs.find? (·.letter == some letter)).map (·, attached)
  | _ => none

/-- Read options of a topic up to the first argument that is none. -/
def readOptions
    (topic : Topic)
    (specs : List OptionSpec) :
    Nat → List Given → List String → Except Halt (List Given × List String)
  | 0, _, _ => .error (.misuse "too many arguments")
  | _ + 1, given, [] => .ok (given, [])
  | fuel + 1, given, argument :: rest =>
      match shapeOf argument with
      | .plain => .ok (given, argument :: rest)
      | .separator =>
          match rest with
          | [] => .ok (given, [])
          | extra :: _ => .error (.misuse ("unexpected argument " ++ extra))
      | shape =>
          match haltOf? topic shape, specOf? specs shape with
          | some halt, _ => .error halt
          | none, none => .error (.misuse ("unexpected argument " ++ argument))
          | none, some (spec, attached) => do
              let (value, rest) ← valueOf spec attached rest
              let given ← record spec value given
              readOptions topic specs fuel given rest

/-- Where the request of a command comes from. -/
structure RequestOptions where
  /-- A file with the request; a dash stands for the standard input. -/
  request : Option String
  project : Option String
  documentType : Option String
  sqon : Option String
  fields : List String
  facets : List String
  first : Option Int64
  offset : Option Int64
  deriving DecidableEq, Repr

/-- A command. -/
inductive Command where
  /-- Print the engine's request for a search request. -/
  | compile (options : RequestOptions)
  /-- Run a search request. -/
  | search (options : RequestOptions)
  /-- Lint the document types in a directory. -/
  | lint (directory : Option String)
  deriving DecidableEq, Repr

/-- A whole command line. -/
structure Invocation where
  settingsFile : String
  logFormat : Option String
  command : Command
  deriving DecidableEq, Repr

/-- The settings file when neither a command line nor the environment names one. -/
def defaultSettingsFile : String := "~/.quiver/config.toml"

/-- The options in front of the command. -/
def globalSpecs : List OptionSpec := [
  { name := "config", letter := some 'c', isRepeatable := false, kind := .path,
    about := "Config file path" },
  { name := "log-format", letter := none, isRepeatable := false, kind := .text,
    about := "Log format: pretty or json (overrides config)" }]

/-- The options of the commands that take a request. -/
def requestSpecs : List OptionSpec := [
  { name := "request", letter := some 'r', isRepeatable := false, kind := .path,
    about := "JSON search request file; '-' reads stdin" },
  { name := "project", letter := some 'p', isRepeatable := false, kind := .text,
    about := "Project id" },
  { name := "document-type", letter := some 'd', isRepeatable := false, kind := .text,
    about := "Document type name" },
  { name := "sqon", letter := none, isRepeatable := false, kind := .text,
    about := "SQON filter as JSON" },
  { name := "fields", letter := none, isRepeatable := true, kind := .text,
    about := "Fields to return (comma-separated)" },
  { name := "facets", letter := none, isRepeatable := true, kind := .text,
    about := "Terms facets (comma-separated)" },
  { name := "first", letter := none, isRepeatable := false, kind := .number, about := "" },
  { name := "offset", letter := none, isRepeatable := false, kind := .number, about := "" }]

/-- The options of the linting command. -/
def lintSpecs : List OptionSpec := [
  { name := "dir", letter := some 'd', isRepeatable := false, kind := .path,
    about := "Projects directory (defaults to projects.dir from config)" }]

/-- Cut a value at its commas. -/
def cutAtCommas : List Char → List (List Char)
  | [] => [[]]
  | c :: rest =>
      if c = ',' then [] :: cutAtCommas rest
      else
        match cutAtCommas rest with
        | first :: others => (c :: first) :: others
        | [] => [[c]]

/-- The values of a repeatable option, each cut at its commas. -/
def listOf (name : String) (given : List Given) : List String :=
  (given.filter (·.1 == name)).flatMap fun entry =>
    (cutAtCommas entry.2.toList).map String.ofList

/-- The value of an option that takes a number. -/
def numberOf (name : String) (given : List Given) : Option Int64 :=
  (Entries.lookup? name given).bind number?

/-- Options that leave no argument behind. -/
def readAllOptions
    (topic : Topic)
    (specs : List OptionSpec)
    (arguments : List String) :
    Except Halt (List Given) := do
  match ← readOptions topic specs (arguments.length + 1) [] arguments with
  | (given, []) => .ok given
  | (_, extra :: _) => .error (.misuse ("unexpected argument " ++ extra))

/--
The options of a request.  A request file stands in for a project and a
document type, and goes with neither.
-/
def requestOptions
    (topic : Topic)
    (arguments : List String) :
    Except Halt RequestOptions := do
  let given ← readAllOptions topic requestSpecs arguments
  let options : RequestOptions := {
    request := Entries.lookup? "request" given
    project := Entries.lookup? "project" given
    documentType := Entries.lookup? "document-type" given
    sqon := Entries.lookup? "sqon" given
    fields := listOf "fields" given
    facets := listOf "facets" given
    first := numberOf "first" given
    offset := numberOf "offset" given
  }
  if options.request.isSome then
    if options.project.isSome || options.documentType.isSome then
      .error (.misuse "--request cannot be used with --project or --document-type")
    else .ok options
  else if options.project.isSome && options.documentType.isSome then .ok options
  else .error (.misuse "--project and --document-type are required without --request")

/-- The topics that a command names. -/
def commandTopics : List (String × Topic) := [
  ("compile", .compile),
  ("search", .search),
  ("lint", .lint),
  ("help", .help)]

/-- What asking for help with commands comes to. -/
def helpHalt : List String → Halt
  | [] => .help .program
  | name :: others =>
      match Entries.lookup? name commandTopics, others with
      | none, _ => .misuse ("unknown command " ++ name)
      | some topic, [] => .help topic
      | some _, extra :: _ => .misuse ("unknown command " ++ extra)

/-- The command that arguments name. -/
def Command.ofArguments : List String → Except Halt Command
  | [] => .error (.misuse "a command is required")
  | name :: arguments =>
      match Entries.lookup? name commandTopics with
      | some .compile => (requestOptions .compile arguments).map .compile
      | some .search => (requestOptions .search arguments).map .search
      | some .lint =>
          (readAllOptions .lint lintSpecs arguments).map fun given =>
            .lint (Entries.lookup? "dir" given)
      | some .help => .error (helpHalt arguments)
      | _ => .error (.misuse ("unknown command " ++ name))

/-- What a run takes from its environment. -/
structure Environment where
  home : Option String
  /-- The settings file of command lines that name none. -/
  settingsFile : Option String
  deriving DecidableEq, Repr, Inhabited

/-- The settings file of a command line with the given options. -/
def settingsFileOf (environment : Environment) (given : List Given) : Except Halt String :=
  match (Entries.lookup? "config" given).or environment.settingsFile with
  | none => .ok defaultSettingsFile
  | some path =>
      if path.isEmpty then .error (.misuse "a value is required for --config") else .ok path

/-- Read a command line. -/
def Invocation.ofArguments
    (environment : Environment)
    (arguments : List String) :
    Except Halt Invocation := do
  let (given, rest) ← readOptions .program globalSpecs (arguments.length + 1) [] arguments
  let command ← Command.ofArguments rest
  let settingsFile ← settingsFileOf environment given
  .ok { settingsFile, logFormat := Entries.lookup? "log-format" given, command }

end FacetSearch.CommandLine
