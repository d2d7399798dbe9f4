import FacetSearch.Files.Access
import FacetSearch.Settings.Basic
import FacetSearch.Toml.Parser
import FacetSearch.Toml.Printer

namespace FacetSearch

/-!
# The settings file

Settings are kept in a TOML file with one section for each group.  Numbers
there have sixty-three bits and a sign, so that not all settings can be saved.
-/

namespace Settings

/-- An assignment of a text. -/
def textLine (name value : String) : String :=
  name ++ " = " ++ Toml.quote value ++ "\n"

/-- An assignment of an optional text, left out when there is none. -/
def optionalLine (name : String) : Option String → String
  | none => ""
  | some value => textLine name value

/-- An assignment of a number. -/
def numberLine (name : String) (value : UInt64) : String :=
  name ++ " = " ++ toString value.toNat ++ "\n"

/-- The numbers among the settings. -/
def numbers (settings : Settings) : List UInt64 := [
  settings.engine.requestTimeout,
  settings.compiler.maxDepth,
  settings.facets.defaultTermsSize,
  settings.facets.maxTermsSize,
  settings.pages.defaultPageSize,
  settings.pages.maxPageSize,
  settings.pages.maxResultWindow,
  settings.projects.pollInterval]

/-- Whether a number fits the file. -/
def isStorable (value : UInt64) : Bool :=
  value.toNat < Nat.pow 2 63

/-- The text of a settings file. -/
def fileText (settings : Settings) : String :=
  "[engine]\n" ++
    textLine "url" settings.engine.url ++
    numberLine "request_timeout_ms" settings.engine.requestTimeout ++
    optionalLine "username" settings.engine.username ++
    optionalLine "password" settings.engine.password ++
    "\n[compiler]\n" ++
    numberLine "max_depth" settings.compiler.maxDepth ++
    "\n[aggregations]\n" ++
    numberLine "default_terms_size" settings.facets.defaultTermsSize ++
    numberLine "max_terms_size" settings.facets.maxTermsSize ++
    "\n[pagination]\n" ++
    numberLine "default_page_size" settings.pages.defaultPageSize ++
    numberLine "max_page_size" settings.pages.maxPageSize ++
    numberLine "max_result_window" settings.pages.maxResultWindow ++
    "\n[projects]\n" ++
    textLine "dir" settings.projects.directory ++
    numberLine "poll_interval_secs" settings.projects.pollInterval ++
    "\n[observability]\n" ++
    textLine "log_format" settings.log.format ++
    textLine "log_level" settings.log.level

/-- The text of a settings file, if the settings can be saved. -/
def save? (settings : Settings) : Option String :=
  if settings.numbers.all isStorable then some settings.fileText else none

end Settings

/-- Why the settings of a file are not used. -/
inductive SettingsFileFault where
  | inaccessible (fault : FileFault)
  /-- The text is not TOML, or does not fit the settings. -/
  | unreadable
  /-- The home directory is needed and not known. -/
  | noHome
  | rejected (fault : SettingsFault)
  deriving DecidableEq, Repr

namespace SettingsFileFault

/-- The wording of a fault. -/
def message : SettingsFileFault → String
  | .inaccessible fault => fault.message
  | .unreadable => "TOML parse error"
  | .noHome => "Cannot determine home directory"
  | .rejected fault => fault.message

end SettingsFileFault

/-- The settings that the text of a file holds. -/
def Settings.ofFileText
    (home : Option String)
    (text : String) :
    Except SettingsFileFault Settings :=
  match (Toml.parse? text).bind (Settings.read? home) with
  | none => .error .unreadable
  | some settings =>
      match settings.expandPaths? home with
      | none => .error .noHome
      | some settings =>
          match settings.fault? with
          | some fault => .error (.rejected fault)
          | none => .ok settings

/--
Load the settings of a file.  Without one the standard settings apply, and an
attempt is made to write them there.
-/
def Settings.load
    {m : Type → Type}
    [Monad m]
    [FileAccess m]
    (home : Option String)
    (path : String) :
    ExceptT SettingsFileFault m Settings := do
  if ← ExceptT.lift (FileAccess.isPresent path) then
    match ← ExceptT.lift (FileAccess.readText path) with
    | .error fault => throw (.inaccessible fault)
    | .ok text => ExceptT.mk (pure (Settings.ofFileText home text))
  else
    let settings := Settings.standard home
    let _ ← ExceptT.lift (FileAccess.writeText path settings.fileText)
    pure settings

end FacetSearch
