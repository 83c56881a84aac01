/-
  ConnectString.Command.Arguments — the arguments of the command line.

    resolve [--file FILE] [--json] [--strict] [--config FILE] [URL…]
    config [--config FILE] [--toml]
    version

  Arguments are taken one after the other. An option that takes a value is settled only when the next option, the
  next free argument or the end comes: until then neither a missing nor a second nor an empty value is complained
  about. Behind a double dash every argument is free.
-/

import ConnectString.Environment

namespace ConnectString.Command

inductive Subject where
  | file | config | json | strict | toml
  deriving DecidableEq, Repr

inductive Effect where
  | help
  | version
  /-- Switches something on. -/
  | switch (s : Subject)
  /-- Takes a value. -/
  | value (s : Subject)
  deriving DecidableEq, Repr

structure Opt where
  long : String
  short : Option Char
  effect : Effect
  deriving DecidableEq, Repr

inductive Refusal where
  | help
  /-- Nothing was asked for, so help is shown. -/
  | helpForNothing
  /-- The line that shows the version. -/
  | version (line : String)
  | unknownCommand
  | unknownArgument
  /-- A value is missing or empty. -/
  | badValue
  /-- An option that may be given once was given twice. -/
  | conflict
  /-- A value for an option that takes none. -/
  | unneededValue
  deriving DecidableEq, Repr

def program : String := "tnsurl"

def versionNumber : String := "0.1.0"

structure Grammar where
  /-- The name that the command shows with its version. -/
  name : String
  options : List Opt
  /-- Whether free arguments are allowed. -/
  free : Bool

namespace Grammar

def common : List Opt := [⟨"help", some 'h', .help⟩, ⟨"version", some 'V', .version⟩]

def configOption : Opt := ⟨"config", some 'c', .value .config⟩

def resolve : Grammar where
  name := program ++ "-resolve"
  options := [⟨"file", some 'f', .value .file⟩, ⟨"json", none, .switch .json⟩, ⟨"strict", none, .switch .strict⟩,
    configOption] ++ common
  free := true

def config : Grammar where
  name := program ++ "-config"
  options := [configOption, ⟨"toml", none, .switch .toml⟩] ++ common
  free := false

def version : Grammar where
  name := program ++ "-version"
  options := common
  free := false

def top : Grammar where
  name := program
  options := common
  free := false

def long? (g : Grammar) (name : Text) : Option Opt := g.options.find? fun o => o.long.toList == name

def short? (g : Grammar) (c : Char) : Option Opt := g.options.find? fun o => o.short == some c

end Grammar

structure Reading where
  switches : List Subject
  values : List (Subject × Text)
  free : List Text
  /-- An option that is not settled, and its value if that has come. -/
  pending : Option (Subject × Option Text)
  deriving DecidableEq, Repr

namespace Reading

def empty : Reading := ⟨[], [], [], none⟩

def value? (r : Reading) (s : Subject) : Option Text := (r.values.find? fun v => v.1 == s).map Prod.snd

def assign (r : Reading) (s : Subject) (v : Text) : Except Refusal Reading :=
  if (r.value? s).isSome then .error .conflict
  else if v.isEmpty then .error .badValue
  else .ok { r with values := r.values ++ [(s, v)] }

def settle (r : Reading) : Except Refusal Reading :=
  match r.pending with
  | none => .ok r
  | some (_, none) => .error .badValue
  | some (s, some v) => assign { r with pending := none } s v

def react (g : Grammar) (r : Reading) : Effect → Except Refusal Reading
  | .help => do
    let _ ← r.settle
    .error .help
  | .version => do
    let _ ← r.settle
    .error (.version s!"{g.name} {versionNumber}\n")
  | .switch s => do
    let r ← r.settle
    if r.switches.contains s then .error .conflict else .ok { r with switches := r.switches ++ [s] }
  | .value s => do
    let r ← r.settle
    .ok { r with pending := some (s, none) }

/-- An option with a double dash; its value may be attached. -/
def long (g : Grammar) (r : Reading) (name : Text) (attached : Option Text) : Except Refusal Reading :=
  match g.long? name with
  | none => .error .unknownArgument
  | some o =>
    match o.effect, attached with
    | .value s, some v => do (← r.settle).assign s v
    | _, some _ => .error .unneededValue
    | e, none => r.react g e

def skipEquals : Text → Text
  | '=' :: t => t
  | t => t

/-- Options with a single dash, one behind the other; the first that takes a value takes the rest. -/
def cluster (g : Grammar) (r : Reading) : Text → Except Refusal Reading
  | [] => .ok r
  | c :: rest =>
    match g.short? c with
    | none => .error .unknownArgument
    | some o =>
      match o.effect with
      | .value s =>
        if rest.isEmpty then r.react g (.value s) else do (← r.settle).assign s (skipEquals rest)
      | e => do cluster g (← r.react g e) rest

/-- A free argument, or the value that an option awaits. -/
def plain (g : Grammar) (r : Reading) (behindDash : Bool) (a : Text) : Except Refusal Reading :=
  match r.pending, behindDash with
  | some (s, none), false => .ok { r with pending := some (s, some a) }
  | _, _ =>
    if g.free then do
      let r ← r.settle
      .ok { r with free := r.free ++ [a] }
    else .error .unknownArgument

def argument (g : Grammar) (r : Reading) (a : Text) : Except Refusal Reading :=
  match a with
  | '-' :: '-' :: name =>
    if name.contains '=' then r.long g (name.takeWhile (· != '=')) (some ((name.dropWhile (· != '=')).drop 1))
    else r.long g name none
  | '-' :: c :: flags => r.cluster g (c :: flags)
  | _ => r.plain g false a

def all (g : Grammar) (behindDash : Bool) : Reading → List Text → Except Refusal Reading
  | r, [] => r.settle
  | r, a :: rest =>
    if behindDash then do all g true (← r.plain g true a) rest
    else if a == ['-', '-'] then all g true r rest
    else do all g false (← r.argument g a) rest

/-- The value of an option, or else that of an environment variable, which must not be empty. -/
def valueOrVariable (r : Reading) (s : Subject) (env : Environment) (name : String) :
    Except Refusal (Option Text) :=
  match r.value? s, env.get? name.toList with
  | some v, _ => .ok (some v)
  | none, some v => if v.isEmpty then .error .badValue else .ok (some v)
  | none, none => .ok none

end Reading

structure ResolveOptions where
  urls : List Text
  file : Option Text
  json : Bool
  strict : Bool
  config : Option Text
  deriving DecidableEq, Repr

structure ConfigOptions where
  config : Option Text
  toml : Bool
  deriving DecidableEq, Repr

inductive Invocation where
  | resolve (o : ResolveOptions)
  | config (o : ConfigOptions)
  | version
  deriving DecidableEq, Repr

namespace Invocation

def configVariable : String := "TNSURL_CONFIG"

def readResolve (env : Environment) (args : List Text) : Except Refusal Invocation := do
  let r ← Reading.all .resolve false .empty args
  let config ← r.valueOrVariable .config env configVariable
  return .resolve ⟨r.free, r.value? .file, r.switches.contains .json, r.switches.contains .strict, config⟩

def readConfig (env : Environment) (args : List Text) : Except Refusal Invocation := do
  let r ← Reading.all .config false .empty args
  let config ← r.valueOrVariable .config env configVariable
  return .config ⟨config, r.switches.contains .toml⟩

def readVersion (args : List Text) : Except Refusal Invocation := do
  let _ ← Reading.all .version false .empty args
  return .version

def commands : List String := ["resolve", "config", "version", "help"]

def isCommand (a : Text) : Bool := commands.any fun c => c.toList == a

def readHelp : List Text → Refusal
  | [] => .help
  | [a] => if isCommand a then .help else .unknownCommand
  | _ => .unknownCommand

def read (env : Environment) : List Text → Except Refusal Invocation
  | [] => .error .helpForNothing
  | a :: rest =>
    if a == "resolve".toList then readResolve env rest
    else if a == "config".toList then readConfig env rest
    else if a == "version".toList then readVersion rest
    else if a == "help".toList then .error (readHelp rest)
    else if a == ['-', '-'] then
      match rest with
      | [] => .error .helpForNothing
      | b :: _ => .error (if isCommand b then .unknownArgument else .unknownCommand)
    else
      match a with
      | '-' :: _ :: _ =>
        -- no option in front of a command lets the arguments go on
        match Reading.argument .top .empty a with
        | .error e => .error e
        | .ok _ => read env rest
      | _ => .error .unknownCommand

end Invocation

end ConnectString.Command
