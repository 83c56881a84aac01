/-
  ConnectString.Main — the command line.

  Everything is decided by `Command.read` and `Command.run`. This module fetches what they look at: the arguments, the
  files that the arguments name, and the environment variables that those files refer to.
-/

import ConnectString.Command.Run
import ConnectString.Logging
import ConnectString.Toml.Standard

namespace ConnectString.Command

def lookAt (path : Text) : IO FileState := do
  if path.contains '\x00' then return .unnamable
  try
    return .content (← IO.FS.readBinFile (String.ofList path))
  catch e =>
    match e with
    | .inappropriateType _ 21 _ => return .directory
    | .inappropriateType _ _ _ => return .blocked
    | .invalidArgument _ _ _ => return .overlong
    | _ => return .missing

def workdirOf (paths : List Text) : IO Workdir := do
  let states ← paths.mapM fun p => return (p, ← lookAt p)
  return ⟨fun path => ((states.find? fun s => s.1 == path).map Prod.snd).getD .missing⟩

def environmentOf (names : List Text) : IO Environment := do
  let values ← names.mapM fun name => do
    if name.isEmpty || name.contains '\x00' then return none
    else return (← IO.getEnv (String.ofList name)).map fun v => (name, v.toList)
  return .ofList (values.filterMap id)

/-- The variables that the program looks at whatever its files say. -/
def ownVariables : List Text :=
  [Settings.enableVariable, Settings.traceVariable, Settings.sizeVariable, Settings.depthVariable,
    Invocation.configVariable, Logging.debugVariable, Logging.levelVariable, Logging.formatVariable].map String.toList

/-- The files that a command looks at: its settings, and the list it reads. -/
def pathsOf : Invocation → List Text
  | .resolve o => configPath o.config :: o.file.toList
  | .config o => [configPath o.config]
  | .version => []

def refuse (r : Refusal) : IO UInt32 := do
  match r with
  | .version line => IO.print line; return 0
  | .help => IO.println "usage: tnsurl resolve|config|version [options]"; return 0
  | .helpForNothing => IO.eprintln "usage: tnsurl resolve|config|version [options]"; return 2
  | .unknownCommand => IO.eprintln "error: unrecognized subcommand"; return 2
  | .unknownArgument => IO.eprintln "error: unexpected argument"; return 2
  | .badValue => IO.eprintln "error: a value is required"; return 2
  | .conflict => IO.eprintln "error: an argument cannot be used multiple times"; return 2
  | .unneededValue => IO.eprintln "error: unexpected value"; return 2

def runMain (args : List String) : IO UInt32 := do
  let own ← environmentOf ownVariables
  match Invocation.read own (args.map String.toList) with
  | .error r => refuse r
  | .ok invocation => do
    let dir ← workdirOf (pathsOf invocation)
    let texts := (pathsOf invocation).filterMap fun p => (dir.read p).toOption
    let env ← environmentOf (ownVariables ++ texts.flatMap Expansion.names)
    let started := (Logging.Log.new env).start
    let done := run Toml.standard dir env invocation
    for e in started.value.written (started.events ++ done.events) do
      IO.println (Logging.eventJson e).compact
    IO.print done.value.output
    IO.eprint done.value.errors
    return UInt32.ofNat done.value.exitCode

end ConnectString.Command

def main (args : List String) : IO UInt32 := ConnectString.Command.runMain args
