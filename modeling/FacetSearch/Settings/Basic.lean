import FacetSearch.Encoding
import FacetSearch.Settings.Home

namespace FacetSearch

/-!
# Settings

The knobs of a search service.  Every one has a default.  Settings are
accepted only when no combination of them makes every request fail.
-/

/-- How the engine is reached. -/
structure EngineSettings where
  url : String
  /-- The timeout of a request that brings none of its own, in milliseconds. -/
  requestTimeout : UInt64
  username : Option String
  password : Option String
  deriving DecidableEq, Repr

/-- The limits on filters. -/
structure CompilerSettings where
  /-- The greatest depth of a filter tree. -/
  maxDepth : UInt64
  deriving DecidableEq, Repr

/-- The limits on facets. -/
structure FacetSettings where
  /-- The number of buckets of a terms facet that asks for none. -/
  defaultTermsSize : UInt64
  maxTermsSize : UInt64
  deriving DecidableEq, Repr

/-- The limits on pages. -/
structure PageSettings where
  defaultPageSize : UInt64
  maxPageSize : UInt64
  /-- The number of hits that the engine can page through. -/
  maxResultWindow : UInt64
  deriving DecidableEq, Repr

/-- Where document types are configured. -/
structure ProjectSettings where
  directory : String
  /-- The seconds between reloads; zero turns reloading off. -/
  pollInterval : UInt64
  deriving DecidableEq, Repr

/-- What is logged. -/
structure LogSettings where
  format : String
  level : String
  deriving DecidableEq, Repr

/-- All settings of a service. -/
structure Settings where
  engine : EngineSettings
  compiler : CompilerSettings
  facets : FacetSettings
  pages : PageSettings
  projects : ProjectSettings
  log : LogSettings
  deriving DecidableEq, Repr

/-- An engine on this machine. -/
def EngineSettings.standard : EngineSettings where
  url := "http://127.0.0.1:9200"
  requestTimeout := 30000
  username := none
  password := none

/-- The standard limits on filters. -/
def CompilerSettings.standard : CompilerSettings where
  maxDepth := 64

/-- The standard limits on facets. -/
def FacetSettings.standard : FacetSettings where
  defaultTermsSize := 100
  maxTermsSize := 1000

/-- The standard limits on pages. -/
def PageSettings.standard : PageSettings where
  defaultPageSize := 20
  maxPageSize := 1000
  maxResultWindow := 10000

/-- Projects below the program's data directory. -/
def ProjectSettings.standard (home : Option String) : ProjectSettings where
  directory := Home.join (Home.dataDirectory home) "projects"
  pollInterval := 30

/-- Readable logs of moderate detail. -/
def LogSettings.standard : LogSettings where
  format := "pretty"
  level := "info,quiver=debug"

/-- The settings of a service that is not configured. -/
def Settings.standard (home : Option String) : Settings where
  engine := .standard
  compiler := .standard
  facets := .standard
  pages := .standard
  projects := .standard home
  log := .standard

/-- A combination of settings that is not accepted. -/
inductive SettingsFault where
  | noPageSize
  | defaultPageTooLarge (size limit : Nat)
  | pageBeyondWindow (size window : Nat)
  | termsSizeOutside (limit : Nat)
  | noDepth
  deriving DecidableEq, Repr

/-- The wording of a rejected combination. -/
def SettingsFault.message : SettingsFault → String
  | .noPageSize => "pagination.max_page_size must be > 0"
  | .defaultPageTooLarge size limit =>
      "pagination.default_page_size (" ++ toString size ++ ") exceeds max_page_size (" ++
        toString limit ++ ")"
  | .pageBeyondWindow size window =>
      "pagination.max_page_size (" ++ toString size ++ ") exceeds max_result_window (" ++
        toString window ++ ")"
  | .termsSizeOutside limit =>
      "aggregations.default_terms_size must be between 1 and max_terms_size (" ++
        toString limit ++ ")"
  | .noDepth => "compiler.max_depth must be > 0"

namespace Settings

/-- The first rejected combination, if any. -/
def fault? (settings : Settings) : Option SettingsFault :=
  let pages := settings.pages
  let facets := settings.facets
  if pages.maxPageSize = 0 then some .noPageSize
  else if pages.maxPageSize < pages.defaultPageSize then
    some (.defaultPageTooLarge pages.defaultPageSize.toNat pages.maxPageSize.toNat)
  else if pages.maxResultWindow < pages.maxPageSize then
    some (.pageBeyondWindow pages.maxPageSize.toNat pages.maxResultWindow.toNat)
  else if facets.defaultTermsSize = 0 ∨ facets.maxTermsSize < facets.defaultTermsSize then
    some (.termsSizeOutside facets.maxTermsSize.toNat)
  else if settings.compiler.maxDepth = 0 then some .noDepth
  else none

/-- Read the tilde of the projects directory. -/
def expandPaths?
    (home : Option String)
    (settings : Settings) :
    Option Settings :=
  (Home.expand? home settings.projects.directory).map fun directory =>
    { settings with projects := { settings.projects with directory } }

section Reading

open Encoding

variable {α : Type} [Encoding α]

/-- Read the engine settings. -/
def readEngine? (value : α) : Option EngineSettings := do
  match ← record? [["url"], ["request_timeout_ms"], ["username"], ["password"]] value with
  | [url, timeout, username, password] =>
      some {
        url := ← defaulted EngineSettings.standard.url text? url
        requestTimeout :=
          ← defaulted EngineSettings.standard.requestTimeout unsigned64? timeout
        username := ← optional text? username
        password := ← optional text? password
      }
  | _ => none

/-- Read the compiler settings. -/
def readCompiler? (value : α) : Option CompilerSettings := do
  match ← record? [["max_depth"]] value with
  | [depth] =>
      some { maxDepth := ← defaulted CompilerSettings.standard.maxDepth unsigned64? depth }
  | _ => none

/-- Read the facet settings. -/
def readFacets? (value : α) : Option FacetSettings := do
  match ← record? [["default_terms_size"], ["max_terms_size"]] value with
  | [default, max] =>
      some {
        defaultTermsSize :=
          ← defaulted FacetSettings.standard.defaultTermsSize unsigned64? default
        maxTermsSize := ← defaulted FacetSettings.standard.maxTermsSize unsigned64? max
      }
  | _ => none

/-- Read the page settings. -/
def readPages? (value : α) : Option PageSettings := do
  match ← record? [["default_page_size"], ["max_page_size"], ["max_result_window"]] value with
  | [default, max, window] =>
      some {
        defaultPageSize :=
          ← defaulted PageSettings.standard.defaultPageSize unsigned64? default
        maxPageSize := ← defaulted PageSettings.standard.maxPageSize unsigned64? max
        maxResultWindow :=
          ← defaulted PageSettings.standard.maxResultWindow unsigned64? window
      }
  | _ => none

/-- Read the project settings. -/
def readProjects?
    (home : Option String)
    (value : α) :
    Option ProjectSettings := do
  match ← record? [["dir"], ["poll_interval_secs"]] value with
  | [directory, interval] =>
      some {
        directory := ← defaulted (ProjectSettings.standard home).directory text? directory
        pollInterval :=
          ← defaulted (ProjectSettings.standard home).pollInterval unsigned64? interval
      }
  | _ => none

/-- Read the log settings. -/
def readLog? (value : α) : Option LogSettings := do
  match ← record? [["log_format"], ["log_level"]] value with
  | [format, level] =>
      some {
        format := ← defaulted LogSettings.standard.format text? format
        level := ← defaulted LogSettings.standard.level text? level
      }
  | _ => none

/-- Read settings, each one that is not given from the standard ones. -/
def read?
    (home : Option String)
    (value : α) :
    Option Settings := do
  match ← record?
      [["engine"], ["compiler"], ["aggregations"], ["pagination"], ["projects"],
        ["observability"]] value with
  | [engine, compiler, facets, pages, projects, log] =>
      some {
        engine := ← defaulted .standard readEngine? engine
        compiler := ← defaulted .standard readCompiler? compiler
        facets := ← defaulted .standard readFacets? facets
        pages := ← defaulted .standard readPages? pages
        projects := ← defaulted (.standard home) (readProjects? home) projects
        log := ← defaulted .standard readLog? log
      }
  | _ => none

end Reading

/-- An optional text, `null` when there is none. -/
def optionalText : Option String → Json
  | none => .null
  | some text => .string text

/-- A machine integer as a number. -/
def count (value : UInt64) : Json :=
  .nat value.toNat

/-- Write settings. -/
def toJson (settings : Settings) : Json :=
  .object [
    ("engine", .object [
      ("url", .string settings.engine.url),
      ("request_timeout_ms", count settings.engine.requestTimeout),
      ("username", optionalText settings.engine.username),
      ("password", optionalText settings.engine.password)]),
    ("compiler", .object [("max_depth", count settings.compiler.maxDepth)]),
    ("aggregations", .object [
      ("default_terms_size", count settings.facets.defaultTermsSize),
      ("max_terms_size", count settings.facets.maxTermsSize)]),
    ("pagination", .object [
      ("default_page_size", count settings.pages.defaultPageSize),
      ("max_page_size", count settings.pages.maxPageSize),
      ("max_result_window", count settings.pages.maxResultWindow)]),
    ("projects", .object [
      ("dir", .string settings.projects.directory),
      ("poll_interval_secs", count settings.projects.pollInterval)]),
    ("observability", .object [
      ("log_format", .string settings.log.format),
      ("log_level", .string settings.log.level)])]

end Settings

end FacetSearch
