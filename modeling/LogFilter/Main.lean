import LogFilter.Environment.Assignment
import LogFilter.Http.Service

/-!
# The executable

Reads the arguments, the environment and the files that a run depends on, and carries out how the run
ends. As a server it answers requests on standard input: each line holds a method and a target, and is
answered by a line with the status and the body.
-/

namespace LogFilter.Main

/-- The state of a file. -/
def fileState (path : String) : IO FileState := do
  try
    return .text (← IO.FS.readFile path)
  catch e =>
    match e with
    | .noFileOrDirectory .. => return .absent
    | _ => return .unreadable

/-- The variables that options are read from. -/
def environment : IO Environment := do
  let names := CommandLine.Setting.globals.filterMap CommandLine.Setting.envName?
  let set ← names.filterMapM fun name => return (← IO.getEnv name).map (name, ·)
  match ← fileState ".env" with
  | .text content => return Environment.load ⟨set⟩ content
  | _ => return ⟨set⟩

/-- The files that the settings come from. -/
def configFiles (overrides : Overrides) : IO ConfigFiles := do
  let path := overrides.config.getD configFileName
  let overlay ← fileState path
  let find (other : String) : FileState := if other = path then overlay else .absent
  match ← IO.getEnv "HOME" with
  | none => return ⟨"", .absent, find⟩
  | some home =>
    let profilePath := home ++ "/.loglens/" ++ configFileName
    return ⟨profilePath, ← fileState profilePath, find⟩

/-- Answers the requests on standard input until it ends. -/
partial def answerLines (settings : Settings) (stdin stdout : IO.FS.Stream) : IO Unit := do
  let line ← stdin.getLine
  if line.isEmpty then return
  match Text.words line with
  | [method, target] =>
    let response := Http.respond settings { method, target }
    let body := (response.body.map Json.render).getD ""
    stdout.putStrLn (Text.decimal response.status ++ " " ++ body)
  | _ => stdout.putStrLn "400"
  stdout.flush
  answerLines settings stdin stdout

end LogFilter.Main

open LogFilter in
/-- Runs the program. -/
def main (args : List String) : IO UInt32 := do
  let env ← Main.environment
  let overrides := match CommandLine.parse env args with
    | .ok invocation => invocation.overrides
    | .error _ => {}
  let outcome := Program.run env (← Main.configFiles overrides) args
  (← IO.getStdout).putStr outcome.stdout
  (← IO.getStderr).putStr outcome.stderr
  match outcome with
  | .serving settings => Main.answerLines settings (← IO.getStdin) (← IO.getStdout)
  | _ => pure ()
  return outcome.exitCode
