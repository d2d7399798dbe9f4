import FacetSearch.CommandLine.Options

namespace FacetSearch.CommandLine

/-!
# Help

A help page says what a topic is about and how it is used, and lists its
commands and options in two columns.  The second column of a list starts two
blanks behind the longest entry of the first.
-/

/-- A titled list of names and what they are for. -/
structure HelpList where
  title : String
  rows : List (String × String)
  deriving DecidableEq, Repr, Inhabited

/-- The help on a topic. -/
structure HelpPage where
  about : String
  usage : String
  lists : List HelpList
  deriving DecidableEq, Repr, Inhabited

namespace HelpList

/-- The width of the first column. -/
def width (list : HelpList) : Nat :=
  list.rows.foldl (fun width row => max width row.1.length) 0

/-- A row whose first column has a given width. -/
def rowText
    (width : Nat)
    (row : String × String) :
    String :=
  "  " ++ row.1 ++ String.ofList (List.replicate (width - row.1.length + 2) ' ') ++ row.2 ++ "\n"

/-- The text of a list. -/
def text (list : HelpList) : String :=
  list.title ++ ":\n" ++ String.join (list.rows.map (rowText list.width))

end HelpList

/-- The text of a page. -/
def HelpPage.text (page : HelpPage) : String :=
  page.about ++ "\n\nUsage: " ++ page.usage ++ "\n" ++
    String.join (page.lists.map fun list => "\n" ++ list.text)

namespace OptionSpec

/-- The word that stands for the value of an option. -/
def valueWord (spec : OptionSpec) : String :=
  String.ofList (spec.name.toList.map fun c => if c = '-' then '_' else Text.upperAscii c)

/-- How an option is written. -/
def form (spec : OptionSpec) : String :=
  (match spec.letter with
    | some letter => String.ofList ['-', letter, ',', ' ']
    | none => "    ") ++
    "--" ++ spec.name ++ " <" ++ spec.valueWord ++ ">"

/-- The row of an option. -/
def row (spec : OptionSpec) : String × String :=
  (spec.form, spec.about)

end OptionSpec

namespace Topic

/-- What a topic is about. -/
def about : Topic → String
  | .program => "Quiver CLI - SQON to Elasticsearch query tools"
  | .compile => "Print the Elasticsearch request body for a search request"
  | .search => "Execute a search request and print the decoded response"
  | .lint => "Validate document-type configs"
  | .help => "Print this message or the help of the given subcommand(s)"

/-- How a topic is used. -/
def usage : Topic → String
  | .program => "quiver [OPTIONS] <COMMAND>"
  | .compile => "quiver compile [OPTIONS]"
  | .search => "quiver search [OPTIONS]"
  | .lint => "quiver lint [OPTIONS]"
  | .help => "quiver help [COMMAND]..."

/-- The options that lead to help. -/
def helpRow : String × String :=
  ("-h, --help", "Print help")

/-- The options of a command. -/
def commandOptions (specs : List OptionSpec) : HelpList where
  title := "Options"
  rows := specs.map OptionSpec.row ++ [helpRow]

/--
The row of an option of the program.  The settings file may come from the
environment as well, and has a default.
-/
def globalRow
    (environment : Environment)
    (spec : OptionSpec) :
    String × String :=
  if spec.name = "config" then
    (spec.form, spec.about ++ " [env: QUIVER_CONFIG=" ++ environment.settingsFile.getD "" ++
      "] [default: " ++ defaultSettingsFile ++ "]")
  else spec.row

/-- The lists on the page of a topic. -/
def lists (environment : Environment) : Topic → List HelpList
  | .program => [
      { title := "Commands"
        rows := commandTopics.map fun entry => (entry.1, entry.2.about) },
      { title := "Options"
        rows := globalSpecs.map (globalRow environment) ++
          [helpRow, ("-V, --version", "Print version")] }]
  | .compile => [commandOptions requestSpecs]
  | .search => [commandOptions requestSpecs]
  | .lint => [commandOptions lintSpecs]
  | .help => [
      { title := "Arguments"
        rows := [("[COMMAND]...", "Print help for the subcommand(s)")] }]

/-- The help on a topic. -/
def page
    (environment : Environment)
    (topic : Topic) :
    HelpPage where
  about := topic.about
  usage := topic.usage
  lists := topic.lists environment

end Topic

end FacetSearch.CommandLine
