import LogFilter.Catalog
import LogFilter.Config.File

/-!
# Settings

The settings that the program runs with. They come in layers: defaults, the profile file of the user, the
local file or one named on the command line, and the overrides of the command line itself. Every setting
is taken from the highest layer that gives it.
-/

namespace LogFilter

/-- The state of a file as the program finds it. -/
inductive FileState where
  | absent
  /-- The path exists and its contents cannot be read. -/
  | unreadable
  | text (content : String)
  deriving DecidableEq, Repr

/-- The files that configuration can come from. -/
structure ConfigFiles where
  /-- The path of the profile file, as messages show it. -/
  profilePath : String
  profile : FileState
  /-- The file at a path. -/
  find : String → FileState

/-- Settings given on the command line or in the environment. -/
structure Overrides where
  host : Option String := none
  port : Option UInt16 := none
  /-- The path of the configuration file to use in place of the local one. -/
  config : Option String := none
  logsTable : Option String := none
  maxQueryLength : Option UInt64 := none
  deriving DecidableEq, Repr

/-- Why the settings cannot be loaded. -/
inductive ConfigError where
  | notFound (path : String)
  | unreadable (path : String)
  | unparsable (path : String)
  | invalidField (group : FieldGroup) (name : String) (cause : QueryError)
  deriving DecidableEq, Repr

/-- The message shown to the user, with its cause if that is an error of its own. -/
def ConfigError.message : ConfigError → String
  | notFound path => "Config file not found: " ++ path
  | unreadable path => "Failed to read config file: " ++ path
  | unparsable path => "Failed to parse config file: " ++ path
  | invalidField group name cause =>
    "Invalid " ++ group.name ++ " field '" ++ name ++ "' in config: " ++ cause.message

/-- The settings that the program runs with. -/
structure Settings where
  host : String := "127.0.0.1"
  port : UInt16 := 5390
  table : String := "logs"
  maxQueryLength : UInt64 := 4096
  /-- The fields that the tenant has as physical columns. -/
  selected : List Field := []
  /-- The fields that the tenant has in arrays of keys and values. -/
  interesting : List Field := []
  deriving DecidableEq, Repr

/-- The name of the local configuration file. -/
def configFileName : String := "loglens.json"

namespace Settings

/-- The built-in catalog extended by the fields of the tenant. -/
def catalog (settings : Settings) : Catalog :=
  Catalog.builtIn.extend settings.selected settings.interesting

/-- Accepts the fields of one group; the first that fails is reported. -/
def acceptFields (group : FieldGroup) (proposals : List Proposal) :
    Except ConfigError (List Field) :=
  proposals.mapM fun p => p.accept.mapError (.invalidField group p.name)

/-- Layers overrides over a file over the defaults. -/
def ofLayers (file : ConfigFile) (overrides : Overrides) : Except ConfigError Settings := do
  let server := file.serverSection
  let logs := file.logsSection
  let selected ← acceptFields .selected (logs.selected.getD [])
  let interesting ← acceptFields .interesting (logs.interesting.getD [])
  let defaults : Settings := {}
  return {
    host := (overrides.host.or server.host).getD defaults.host
    port := (overrides.port.or server.port).getD defaults.port
    table := (overrides.logsTable.or logs.table).getD defaults.table
    maxQueryLength := (overrides.maxQueryLength.or logs.maxQueryLength).getD defaults.maxQueryLength
    selected, interesting }

/-- What a file says; an absent file says nothing. -/
def readLayer (path : String) : FileState → Except ConfigError ConfigFile
  | .absent => .ok {}
  | .unreadable => .error (.unreadable path)
  | .text content =>
    match ConfigFile.parse content with
    | .ok file => .ok file
    | .error _ => .error (.unparsable path)

/-- What the local file says, or the one named on the command line, which must exist. -/
def readOverlay (files : ConfigFiles) (overrides : Overrides) : Except ConfigError ConfigFile :=
  match overrides.config with
  | none => readLayer configFileName (files.find configFileName)
  | some path =>
    match files.find path with
    | .absent => .error (.notFound path)
    | state => readLayer path state

/-- Loads the settings from all layers. -/
def load (files : ConfigFiles) (overrides : Overrides) : Except ConfigError Settings := do
  let profile ← readLayer files.profilePath files.profile
  let overlay ← readOverlay files overrides
  ofLayers (overlay.withDefaults profile) overrides

end Settings

end LogFilter
