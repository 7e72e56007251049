import LogFilter.CommandLine.Setting
import LogFilter.Config.Settings
import LogFilter.Environment
import LogFilter.Request

/-!
# The command line

Arguments are read from left to right, first those of the program and then those of a command. An option
stands with its value in one argument or in two. A value in an argument of its own is checked when
the next option or word is accepted, or at the end of its level; the end of the program's own level comes
after that of the command. At the end of a level the environment is looked at for options that the level
does not give.
-/

namespace LogFilter.CommandLine

/-- What the `translate` command is given. -/
structure FilterArguments where
  query : String
  timestampStart : Option UInt64 := none
  timestampEnd : Option UInt64 := none
  idStart : Option String := none
  idEnd : Option String := none
  deriving DecidableEq, Repr

/-- The listing with the same filter. -/
def FilterArguments.toListing (t : FilterArguments) : ListingRequest :=
  { query := t.query, timestampStart := t.timestampStart, timestampEnd := t.timestampEnd
    idStart := t.idStart, idEnd := t.idEnd }

/-- The commands of the program. -/
inductive Command where
  | serve
  | translate (filter : FilterArguments)
  | validateField (proposal : Proposal)
  deriving DecidableEq, Repr

/-- What the arguments ask for. -/
structure Invocation where
  overrides : Overrides
  command : Option Command
  deriving DecidableEq, Repr

/-- An argument by its form. -/
inductive Argument where
  /-- Two dashes: everything after them is a word. -/
  | separator
  | long (name : String) (value : Option String)
  | short (letter : Char) (value : Option String)
  | word (text : String)
  deriving DecidableEq, Repr

/-- The form of an argument. A single dash is a word. -/
def Argument.ofString (arg : String) : Argument :=
  match arg.toList with
  | ['-', '-'] => .separator
  | '-' :: '-' :: cs =>
    let (name, value) := Text.cutAt '=' cs
    .long (String.ofList name) (value.map String.ofList)
  | '-' :: letter :: '=' :: cs => .short letter (some (String.ofList cs))
  | ['-', letter] => .short letter none
  | '-' :: letter :: cs => .short letter (some (String.ofList cs))
  | _ => .word arg

/-- The word that asks for help. -/
def helpName : String := "help"

/-- The word asks for help or is the name of a command. -/
def isCommandName (text : String) : Bool := text = helpName || (Level.ofCommand? text).isSome

/-- What has been read at one level. -/
structure State where
  /-- The options that have been accepted, with their values. -/
  given : List (Setting × String) := []
  /-- The option that waits for its value, or whose value waits to be checked. -/
  pending : Option (Setting × Option String) := none
  query : Option String := none
  /-- The separator has been met. -/
  literal : Bool := false
  deriving DecidableEq, Repr

namespace State

/-- An option waits for its value. -/
def isAwaiting (state : State) : Bool :=
  match state.pending with
  | some (_, none) => true
  | _ => false

/-- Accepts an option with its value; it may not be there yet. -/
def give (state : State) (setting : Setting) (value : String) : Except UsageError State :=
  if (state.given.lookup setting).isSome then .error .argumentConflict
  else
    match setting.check value with
    | .error e => .error e
    | .ok () => .ok { state with given := state.given ++ [(setting, value)] }

/-- Accepts the option that is pending. -/
def settle (state : State) : Except UsageError State :=
  match state.pending with
  | none => .ok state
  | some (_, none) => .error .invalidValue
  | some (setting, some value) => { state with pending := none }.give setting value

/-- Takes a word that is not the value of an option. Only `translate` has a place for one. Where a command is
expected the word is not one, or stands after the separator, where commands are not looked for. -/
def takeWord (level : Level) (state : State) (text : String) : Except UsageError State :=
  match level, state.query with
  | .program, _ => .error (if isCommandName text then .unknownArgument else .invalidSubcommand)
  | .translate, none => state.settle.map fun state => { state with query := some text }
  | _, _ => .error .unknownArgument

/-- Takes an option, with its value if they stand in one argument. -/
def takeSetting (state : State) (setting : Setting) (value : Option String) :
    Except UsageError State :=
  match state.settle with
  | .error e => .error e
  | .ok state =>
    match value with
    | some value => state.give setting value
    | none => .ok { state with pending := some (setting, none) }

/-- Takes a flag, which ends the reading. -/
def takeFlag (state : State) (flag : Flag) : Except UsageError State :=
  match state.settle with
  | .error e => .error e
  | .ok _ => .error flag.request

/-- Takes the next argument of a level. -/
def take (level : Level) (state : State) (arg : String) : Except UsageError State :=
  if state.literal then state.takeWord level arg
  else
    match Argument.ofString arg with
    | .separator => .ok { state with literal := true }
    | .long name value =>
      match level.ofLong? name, value with
      | none, _ => .error .unknownArgument
      | some (.setting setting), _ => state.takeSetting setting value
      | some (.flag flag), none => state.takeFlag flag
      | some (.flag _), some _ => .error .tooManyValues
    | .short letter value =>
      match level.ofShort? letter with
      | none => .error .unknownArgument
      | some (.setting setting) => state.takeSetting setting value
      | some (.flag flag) => state.takeFlag flag
    | .word text =>
      match state.pending with
      | some (setting, none) => .ok { state with pending := some (setting, some text) }
      | _ => state.takeWord level text

/-- Checks the environment for the options of the list that the level does not give. -/
def checkEnvironment (env : Environment) (state : State) : List Setting → Except UsageError Unit
  | [] => .ok ()
  | setting :: settings =>
    match state.given.lookup setting, setting.envName?.bind env.get? with
    | none, some value =>
      match setting.check value with
      | .error e => .error e
      | .ok () => state.checkEnvironment env settings
    | _, _ => state.checkEnvironment env settings

/-- Everything that the level requires is there. -/
def isSufficient (level : Level) (state : State) : Bool :=
  level.required.all (fun setting => (state.given.lookup setting).isSome) &&
    (level != .translate || state.query.isSome)

/-- Ends a level. -/
def finish (level : Level) (env : Environment) (state : State) : Except UsageError State :=
  match state.settle with
  | .error e => .error e
  | .ok state =>
    match state.checkEnvironment env level.settings with
    | .error e => .error e
    | .ok () => if state.isSufficient level then .ok state else .error .missingRequiredArgument

end State

/-- What a request for help gives: a command may be named after it, and nothing more. -/
def helpOn : List String → UsageError
  | [] => .displayHelp
  | [name] => if isCommandName name then .displayHelp else .invalidSubcommand
  | _ => .invalidSubcommand

/-- Reads the arguments of the program up to a command, and gives what follows the command. -/
def readProgram (state : State) :
    List String → Except UsageError (State × Option (Level × List String))
  | [] => .ok (state, none)
  | arg :: args =>
    let command := if state.literal || state.isAwaiting then none else Level.ofCommand? arg
    match command with
    | some level => .ok (state, some (level, args))
    | none =>
      if arg = helpName && !state.literal && !state.isAwaiting then .error (helpOn args)
      else
        match state.take .program arg with
        | .error e => .error e
        | .ok state => readProgram state args

/-- The values of the options, from the highest layer: after the command, before it, the environment. -/
structure Values where
  program : State
  command : State
  env : Environment

namespace Values

/-- The value of an option. -/
def get? (values : Values) (setting : Setting) : Option String :=
  ((values.command.given.lookup setting).or (values.program.given.lookup setting)).or
    (setting.envName?.bind values.env.get?)

/-- The value of an option that must be there. -/
def text (values : Values) (setting : Setting) : String := (values.get? setting).getD ""

/-- The overrides that the options give. -/
def overrides (values : Values) : Overrides :=
  { host := values.get? .host
    port := (values.get? .port).bind readPort?
    config := values.get? .config
    logsTable := values.get? .logsTable
    maxQueryLength := (values.get? .maxQueryLength).bind Text.readUInt64? }

/-- The command of a level. -/
def commandAt (values : Values) : Level → Option Command
  | .program => none
  | .serve => some .serve
  | .translate =>
    some (.translate
      { query := values.command.query.getD ""
        timestampStart := (values.get? .timestampStart).bind Text.readUInt64?
        timestampEnd := (values.get? .timestampEnd).bind Text.readUInt64?
        idStart := values.get? .idStart
        idEnd := values.get? .idEnd })
  | .validateField =>
    some (.validateField
      ⟨values.text .name, values.text .kind, values.text .dataType, values.get? .skipIndex⟩)

end Values

/-- Reads the arguments of a command, then ends its level and that of the program. -/
def readCommand (env : Environment) (program : State) (level : Level) (args : List String) :
    Except UsageError Invocation := do
  let command ← args.foldlM (State.take level) {}
  let command ← command.finish level env
  let program ← program.finish .program env
  let values : Values := ⟨program, command, env⟩
  return ⟨values.overrides, values.commandAt level⟩

/-- Reads the arguments of the program. -/
def parse (env : Environment) (args : List String) : Except UsageError Invocation := do
  match ← readProgram {} args with
  | (program, some (level, rest)) => readCommand env program level rest
  | (program, none) =>
    let program ← program.finish .program env
    let values : Values := ⟨program, {}, env⟩
    return ⟨values.overrides, none⟩

end LogFilter.CommandLine
