/-
  ConnectString.Settings.Load — settings out of a TOML text, and out of a file.

    [jdbc.tibero]
    enable = ${TIBERO:-true}
    max_sql_bind_value_size = 2048

    [resolver]
    max_depth = 32

  References to environment variables are expanded before the text is read as TOML, wherever they stand. Keys that
  are not known are refused, and so is a depth beyond the ceiling.
-/

import ConnectString.Environment.Expansion
import ConnectString.Settings
import ConnectString.Toml.Codec
import ConnectString.Toml.Record
import ConnectString.Workdir

namespace ConnectString

namespace Settings

inductive Failure where
  | unreadable (path : Text) (fault : ReadFault)
  /-- The text is no TOML. -/
  | malformed
  /-- The text is TOML of another shape. -/
  | mismatch (m : Toml.Mismatch)
  | variableNotFound (name : Text)
  | invalidVariable (name message : Text)
  | invalidValue (key message : String)
  deriving DecidableEq, Repr

namespace Failure

def message : Failure → String
  | unreadable path fault => s!"failed to read config file '{String.ofList path}': {fault.message}"
  | malformed => "invalid config: TOML parse error"
  | mismatch m => s!"invalid config: {m.message}"
  | variableNotFound name => s!"environment variable not found: {String.ofList name}"
  | invalidVariable name message =>
    s!"invalid value for environment variable '{String.ofList name}': {String.ofList message}"
  | invalidValue key message => s!"invalid value for '{key}': {message}"

def ofExpansion : Expansion.Failure → Failure
  | .notFound name => variableNotFound name
  | .invalid name message => invalidVariable name message

end Failure

/-! ## The shape of the text -/

open Toml

def booleanField {α : Type} (name : String) (set : Bool → α → α) : Toml.Field α :=
  ⟨name, fun v a => (v.asBoolean).map fun b => set b a⟩

def naturalField {α : Type} (name : String) (set : Nat → α → α) : Toml.Field α :=
  ⟨name, fun v a => (v.asNatural).map fun n => set n a⟩

def pluginFields : List (Toml.Field PluginSettings) :=
  [booleanField "enable" fun b p => { p with enable := b },
    booleanField "trace_sql_bind_value" fun b p => { p with traceSqlBindValue := b },
    naturalField "max_sql_bind_value_size" fun n p => { p with maxSqlBindValueSize := n },
    booleanField "profile_set_auto_commit" fun b p => { p with profileSetAutoCommit := b },
    booleanField "profile_commit" fun b p => { p with profileCommit := b },
    booleanField "profile_rollback" fun b p => { p with profileRollback := b },
    booleanField "profile_disallow_3_methods" fun b p => { p with profileDisallow3Methods := b }]

def jdbcFields : List (Toml.Field Settings) :=
  [⟨"tibero", fun v s => (Record.fill "TiberoConfig" pluginFields v s.plugin).map fun p => { s with plugin := p }⟩]

def resolverFields : List (Toml.Field Settings) :=
  [naturalField "max_depth" fun n s => { s with maxDepth := n }]

def documentFields : List (Toml.Field Settings) :=
  [⟨"jdbc", Record.fill "JdbcConfig" jdbcFields⟩, ⟨"resolver", Record.fill "ResolverConfig" resolverFields⟩]

/-- The settings that a TOML text holds, whatever their depth. -/
def decode (codec : Toml.Codec) (t : Text) : Except Failure Settings :=
  match codec.read t with
  | none => .error .malformed
  | some es =>
    match Record.fillByName documentFields es default with
    | .ok s => .ok s
    | .error m => .error (.mismatch m)

def parse (codec : Toml.Codec) (env : Environment) (t : Text) : Except Failure Settings :=
  match expand env t with
  | .error e => .error (.ofExpansion e)
  | .ok expanded =>
    match decode codec expanded with
    | .error e => .error e
    | .ok s =>
      match depthFault? s.maxDepth with
      | some message => .error (.invalidValue "resolver.max_depth" message)
      | none => .ok s

/-! ## Files -/

def event (message : String) (path : Text) : Event :=
  ⟨.debug, "tnsurl_core::config", message, [("path", .text path)]⟩

def ofFile (codec : Toml.Codec) (dir : Workdir) (env : Environment) (path : Text) :
    Logged (Except Failure Settings) :=
  match dir.read path with
  | .error fault => return .error (.unreadable path fault)
  | .ok t => do
    Logged.emit (event "loading config" path)
    return parse codec env t

/-- The settings in a file, or the default ones where nothing stands at its path. -/
def ofFileOrDefault (codec : Toml.Codec) (dir : Workdir) (env : Environment) (path : Text) :
    Logged (Except Failure Settings) :=
  if dir.has path then ofFile codec dir env path
  else do
    Logged.emit (event "config file not found, using defaults" path)
    return .ok default

end Settings

end ConnectString
