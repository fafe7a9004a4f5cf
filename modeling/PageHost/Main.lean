import PageHost.Replay
/-!
# Command line

`replay <batches.json> [config.yaml]` replays recorded batches and prints the body
of the page. This module reads files, the environment and the arguments; all else
is `Replay.run`.
-/

namespace PageHost.CommandLine

/-- The text of a file; none if there is no such file. -/
def readText? (path : String) : IO (Option (Except FileError String)) := do
  try
    return some (.ok (← IO.FS.readFile path))
  catch e =>
    match e with
    | .noFileOrDirectory _ _ _ => return none
    | _ => return some (.error .notText)

/-- The text of a file that has to be there. -/
def requireText (path : String) : IO (Except FileError String) := do
  return (← readText? path).getD (.error .missing)

/-- The directory of the user's configurations, if the environment names one. -/
def userDirectory? : IO (Option String) := do
  match ← IO.getEnv "XDG_CONFIG_HOME" with
  | some path => if path.startsWith "/" then return some path else homeDirectory?
  | none => homeDirectory?
where
  /-- The directory below the home directory. -/
  homeDirectory? : IO (Option String) := do
    return (← IO.getEnv "HOME").map (· ++ "/.config")

/-- The texts of the places where a configuration may be found. -/
def sources (named : Option String) : IO Config.Sources := do
  let namedText ← match named with
    | some path => do pure (some (← requireText path))
    | none => pure none
  let environment ← match ← IO.getEnv "MUTATION_INTERPRETER_CONFIG" with
    | some path => readText? path
    | none => pure none
  let user ← match ← userDirectory? with
    | some folder => readText? (folder ++ "/mutation-interpreter/config.yaml")
    | none => pure none
  return ⟨namedText, environment, user⟩

/-- The report of a replay with the given arguments. -/
def report : List String → IO Replay.Report
  | [] => return .failure .usage
  | name :: rest => do
    let text := match ← requireText name with
      | .ok text => some text
      | .error _ => none
    return Replay.run (← sources rest.head?) name text

end PageHost.CommandLine

/-- Replays what the arguments name; the exit code is 1 if the replay fails. -/
def main (args : List String) : IO UInt32 := do
  let report ← PageHost.CommandLine.report args
  IO.print report.printed
  match report.error with
  | none => return 0
  | some e =>
    IO.eprintln ("Error: " ++ e.message)
    return 1
