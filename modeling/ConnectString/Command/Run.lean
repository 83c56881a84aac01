/-
  ConnectString.Command.Run — the commands: what each writes and how it ends.
-/

import ConnectString.Command.Arguments
import ConnectString.Command.Batch
import ConnectString.Settings.Override
import ConnectString.Settings.Print

namespace ConnectString.Command

inductive Failure where
  | unreadable (fault : ReadFault)
  | settings (f : Settings.Failure)
  | noUrls
  /-- So many of all urls were not resolved, under a strict rule. -/
  | unresolved (count total : Nat)
  /-- Settings hold a number that cannot be written. -/
  | unwritable
  deriving DecidableEq, Repr

namespace Failure

def message : Failure → String
  | unreadable fault => s!"IO error: {fault.message}"
  | settings f => s!"Configuration error: {f.message}"
  | noUrls => "Input error: no URLs to resolve"
  | unresolved count total => s!"{count} of {total} URL(s) could not be resolved"
  | unwritable => "Output error: Failed to serialize TOML: out-of-range value for u64 type"

/-- The code that documentation knows the failure by. -/
def code : Failure → String
  | unreadable _ => "tnsurl::io"
  | settings _ => "tnsurl::config"
  | noUrls => "tnsurl::input"
  | unresolved _ _ => "tnsurl::unresolved"
  | unwritable => "tnsurl::output"

def help? : Failure → Option String
  | noUrls => some "pass URLs as arguments or use --file"
  | _ => none

end Failure

/-! ## Settings in force -/

def defaultConfigFile : String := "tnsurl.toml"

def configPath (named : Option Text) : Text := named.getD defaultConfigFile.toList

/-- The settings in force. A file that is named has to be there. The first environment expands references in the
    file, the second overrides what it says. -/
def loadSettings (codec : Toml.Codec) (dir : Workdir) (env overrides : Environment) (named : Option Text) :
    Logged (Except Failure Settings) := do
  let path := configPath named
  Logged.emit ⟨.debug, "tnsurl_cli::config", "loading configuration", [("path", .text path)]⟩
  let loaded ←
    if named.isSome then Settings.ofFile codec dir env path else Settings.ofFileOrDefault codec dir env path
  match loaded with
  | .error e => return .error (.settings e)
  | .ok s =>
    match s.override overrides with
    | .error e => return .error (.settings e)
    | .ok s => return .ok s

/-! ## Commands -/

structure Report where
  output : String
  failure : Option Failure
  deriving DecidableEq, Repr

def Report.failed (f : Failure) : Report := ⟨"", some f⟩

/-- What is written about outcomes, and whether they make the command fail. -/
def reportBatch (json strict : Bool) (os : List Outcome) : Report :=
  { output := if json then Batch.json os else Batch.report os
    failure :=
      if strict && 0 < Batch.countUnresolved os then some (.unresolved (Batch.countUnresolved os) os.length)
      else none }

def readList (dir : Workdir) : Option Text → Except ReadFault (Option Text)
  | none => .ok none
  | some path => (dir.read path).map some

def runResolve (codec : Toml.Codec) (dir : Workdir) (env : Environment) (o : ResolveOptions) : Logged Report := do
  match ← loadSettings codec dir env env o.config with
  | .error f => return .failed f
  | .ok s =>
    match readList dir o.file with
    | .error fault => return .failed (.unreadable fault)
    | .ok list =>
      match collectUrls o.urls list with
      | [] => return .failed .noUrls
      | urls => do
        let os ← Batch.resolveAll s.maxDepth urls
        return reportBatch o.json o.strict os

def showSettings (dir : Workdir) (path : Text) (s : Settings) : String :=
  Console.title "Configuration" ++ Console.field "File" (String.ofList path) ++
    (if dir.has path then "" else Console.note "(not found, using defaults)") ++
    Console.table "jdbc.tibero" ++ String.join (s.plugin.fields.map fun (name, v) => Console.field name v) ++
    Console.table "resolver" ++ Console.field "max_depth" (toString s.maxDepth) ++
    (if s.plugin.enable then ""
     else "\n" ++ Console.note "Tibero plugin is disabled; set jdbc.tibero.enable = true to register it")

def runConfig (codec : Toml.Codec) (dir : Workdir) (env : Environment) (o : ConfigOptions) : Logged Report := do
  match ← loadSettings codec dir env env o.config with
  | .error f => return .failed f
  | .ok s =>
    if o.toml then
      match s.print? codec with
      | some t => return ⟨String.ofList t, none⟩
      | none => return .failed .unwritable
    else return ⟨showSettings dir (configPath o.config) s, none⟩

def showVersion : String :=
  Console.title program ++ Console.field "Version" versionNumber ++ Console.field "Package" (program ++ "-cli") ++
    Console.field "URL prefix" scheme ++ Console.field "Max descriptor depth" (toString Descriptor.defaultDepth) ++
    Console.field "Depth ceiling" (toString Descriptor.depthCeiling) ++
    Console.note "Logging: TNSURL_DEBUG, TNSURL_LOG_LEVEL, TNSURL_LOG_FORMAT"

def run (codec : Toml.Codec) (dir : Workdir) (env : Environment) : Invocation → Logged Report
  | .resolve o => runResolve codec dir env o
  | .config o => runConfig codec dir env o
  | .version => return ⟨showVersion, none⟩

namespace Report

def errors (r : Report) : String := (r.failure.map fun f => Console.failure f.message).getD ""

def exitCode (r : Report) : Nat := if r.failure.isSome then 1 else 0

end Report

end ConnectString.Command
