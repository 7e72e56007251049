import LogFilter.Text.Basic

/-!
# Options of the command line

Options that take a value stand before or after the command, or after one command only. Flags ask for help
or for the version.
-/

namespace LogFilter.CommandLine

/-- Why arguments are not accepted. Requests for help and for the version count as such. -/
inductive UsageError where
  | unknownArgument
  | invalidSubcommand
  /-- An option is given twice. -/
  | argumentConflict
  /-- An option has no value, or an empty one where that is not allowed. -/
  | invalidValue
  /-- A value cannot be read. -/
  | valueValidation
  /-- A flag has a value. -/
  | tooManyValues
  | missingRequiredArgument
  | displayHelp
  | displayVersion
  deriving DecidableEq, Repr

/-- The levels at which arguments are read: the program, and each of its commands. -/
inductive Level where
  | program
  | serve
  | translate
  | validateField
  deriving DecidableEq, Repr

/-- The options that take a value. -/
inductive Setting where
  | host
  | port
  | config
  | logsTable
  | maxQueryLength
  | timestampStart
  | timestampEnd
  | idStart
  | idEnd
  | name
  | kind
  | dataType
  | skipIndex
  deriving DecidableEq, Repr

/-- The options that take no value. -/
inductive Flag where
  | help
  | version
  deriving DecidableEq, Repr

namespace Setting

/-- The options that are accepted at every level. -/
def globals : List Setting := [host, port, config, logsTable, maxQueryLength]

/-- The long name, written after two dashes. -/
def long : Setting → String
  | host => "host"
  | port => "port"
  | config => "config"
  | logsTable => "logs-table"
  | maxQueryLength => "max-query-length"
  | timestampStart => "timestamp-start"
  | timestampEnd => "timestamp-end"
  | idStart => "id-start"
  | idEnd => "id-end"
  | name => "name"
  | kind => "type"
  | dataType => "data-type"
  | skipIndex => "index-type"

/-- The short name, written after one dash. -/
def short? : Setting → Option Char
  | host => some 'H'
  | port => some 'p'
  | config => some 'c'
  | _ => none

/-- The environment variable that gives the option if the command line does not. -/
def envName? : Setting → Option String
  | host => some "LOGLENS_HOST"
  | port => some "LOGLENS_PORT"
  | config => some "LOGLENS_CONFIG"
  | logsTable => some "LOGLENS_LOGS_TABLE"
  | maxQueryLength => some "LOGLENS_LOGS_MAX_QUERY_LENGTH"
  | _ => none

end Setting

/-- Reads a port: a numeral, perhaps signed, of at most 16 bits. -/
def readPort? (text : String) : Option UInt16 := (Text.signedNumeral? text).bind Text.uint16?

/-- Checks that the value of an option can be read. -/
def Setting.check (setting : Setting) (value : String) : Except UsageError Unit :=
  match setting with
  | .port => if (readPort? value).isSome then .ok () else .error .valueValidation
  | .maxQueryLength | .timestampStart | .timestampEnd =>
    if (Text.readUInt64? value).isSome then .ok () else .error .valueValidation
  | .config => if value = "" then .error .invalidValue else .ok ()
  | _ => .ok ()

namespace Flag

/-- The long name, written after two dashes. -/
def long : Flag → String
  | help => "help"
  | version => "version"

/-- The short name, written after one dash. -/
def short : Flag → Char
  | help => 'h'
  | version => 'V'

/-- What the flag asks for. -/
def request : Flag → UsageError
  | help => .displayHelp
  | version => .displayVersion

end Flag

/-- An option of either sort. -/
inductive Switch where
  | setting (s : Setting)
  | flag (f : Flag)
  deriving DecidableEq, Repr

namespace Level

/-- The level of the command with this name. -/
def ofCommand? : String → Option Level
  | "serve" => some serve
  | "translate" => some translate
  | "validate-field" => some validateField
  | _ => none

/-- The options of a level that take a value. -/
def settings : Level → List Setting
  | program | serve => Setting.globals
  | translate => [.timestampStart, .timestampEnd, .idStart, .idEnd] ++ Setting.globals
  | validateField => [.name, .kind, .dataType, .skipIndex] ++ Setting.globals

/-- The options of a level that must be given. -/
def required : Level → List Setting
  | validateField => [.name, .kind, .dataType]
  | _ => []

/-- The flags of a level. -/
def flags : Level → List Flag
  | program => [.help, .version]
  | _ => [.help]

/-- The option of a level with this long name. -/
def ofLong? (level : Level) (name : String) : Option Switch :=
  ((level.settings.find? (·.long = name)).map .setting).or
    ((level.flags.find? (·.long = name)).map .flag)

/-- The option of a level with this short name. -/
def ofShort? (level : Level) (letter : Char) : Option Switch :=
  ((level.settings.find? (·.short? = some letter)).map .setting).or
    ((level.flags.find? (·.short = letter)).map .flag)

end Level

end LogFilter.CommandLine
