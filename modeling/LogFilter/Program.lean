import LogFilter.CommandLine
import LogFilter.Net.Address
import LogFilter.Request.Where

/-!
# The program

One run of the program as a function of its arguments, its environment and the files it finds.
-/

namespace LogFilter

/-- The name of the program. -/
def programName : String := "loglens"

/-- The version of the program. -/
def programVersion : String := "0.1.0"

/-- The WHERE body of a request under these settings. -/
def Settings.whereBody (settings : Settings) (request : ListingRequest) : Except QueryError String :=
  request.checkedWhereBody settings.catalog settings.maxQueryLength

/-- The message for a query that is not a filter of these settings. -/
def filterFailure (query : String) (e : QueryError) : String :=
  "Failed to translate query '" ++ query ++ "': " ++ e.message

/-- The message for a field that is not valid. -/
def validateFailure (name : String) (e : QueryError) : String :=
  "Invalid field '" ++ name ++ "': " ++ e.message

/-- How a run of the program ends. -/
inductive Outcome where
  | printed (text : String)
  | failed (message : String)
  | refused (error : CommandLine.UsageError)
  /-- The program goes on to answer requests. -/
  | serving (settings : Settings)
  deriving DecidableEq, Repr

namespace Outcome

/-- The usage of the program. -/
def usage : String :=
  "Log filter query service\n\n" ++
  "Usage: loglens [OPTIONS] [COMMAND]\n\n" ++
  "Commands:\n" ++
  "  serve           Start the server (default command)\n" ++
  "  translate       Print the WHERE clause for a filter query\n" ++
  "  validate-field  Check a field definition before registering it\n" ++
  "  help            Print this message or the help of the given subcommand(s)\n"

/-- The exit code. -/
def exitCode : Outcome → UInt32
  | printed _ | serving _ | refused .displayHelp | refused .displayVersion => 0
  | failed _ => 1
  | refused _ => 2

/-- What is written to standard output. -/
def stdout : Outcome → String
  | printed text => text ++ "\n"
  | refused .displayVersion => programName ++ " " ++ programVersion ++ "\n"
  | refused .displayHelp => usage
  | _ => ""

/-- What is written to standard error. -/
def stderr : Outcome → String
  | failed message => "\nError: " ++ message ++ "\n\n"
  | refused .displayHelp | refused .displayVersion => ""
  | refused _ => usage
  | _ => ""

end Outcome

namespace Program

/-- Starts the server, whose host must be an address. -/
def serve (settings : Settings) : Outcome :=
  if Net.isAddress settings.host then .serving settings else .failed "invalid IP address syntax"

/-- Prints the WHERE body of a request. -/
def printWhere (settings : Settings) (request : ListingRequest) : Outcome :=
  match settings.whereBody request with
  | .ok whereBody => .printed whereBody
  | .error e => .failed (filterFailure request.query e)

/-- Checks a proposed field. -/
def validateField (p : Proposal) : Outcome :=
  match p.check with
  | .ok () => .printed "ok"
  | .error e => .failed (validateFailure p.name e)

/-- Runs what the arguments ask for. -/
def invoke (files : ConfigFiles) (invocation : CommandLine.Invocation) : Outcome :=
  match invocation.command with
  | some (.validateField p) => validateField p
  | command =>
    match Settings.load files invocation.overrides with
    | .error e => .failed e.message
    | .ok settings =>
      match command with
      | some (.translate filter) => printWhere settings filter.toListing
      | _ => serve settings

/-- Runs the program. -/
def run (env : Environment) (files : ConfigFiles) (args : List String) : Outcome :=
  match CommandLine.parse env args with
  | .error e => .refused e
  | .ok invocation => invoke files invocation

end Program

end LogFilter
