/-
  ConnectString.Logging — whether events are written, from which level on, and how.

  Three environment variables decide. A process starts its log at most once: the first start settles the matter, also
  when it settles that nothing is written. Events that come before are lost.
-/

import ConnectString.Environment
import ConnectString.Journal
import ConnectString.Json
import ConnectString.Text.Quoted

namespace ConnectString

namespace Logging

def debugVariable : String := "TNSURL_DEBUG"
def levelVariable : String := "TNSURL_LOG_LEVEL"
def formatVariable : String := "TNSURL_LOG_FORMAT"

inductive Format where
  | json | pretty | compact
  deriving DecidableEq, Repr

def Format.name : Format → String
  | json => "json"
  | pretty => "pretty"
  | compact => "compact"

/-- Whether a text is one of some words, the case of ASCII letters aside. -/
def isWord (words : List String) (t : Text) : Bool := words.any fun w => w.toList == t.map Char.toLower

def isDebug (env : Environment) : Bool :=
  match env.get? debugVariable.toList with
  | some t => isWord ["true", "1", "yes"] t
  | none => false

def levels : List Level := [.trace, .debug, .info, .warn, .error]

/-- The level from which on events are written. -/
def level (env : Environment) : Level :=
  let named := (env.get? levelVariable.toList).bind fun t => levels.find? fun l => isWord [l.name] t
  named.getD (if isDebug env then .debug else .warn)

def format (env : Environment) : Format :=
  let named := (env.get? formatVariable.toList).bind fun t =>
    [Format.pretty, Format.compact].find? fun f => isWord [f.name] t
  named.getD .json

def whenDebugging (env : Environment) (es : List Event) : Logged Unit :=
  if isDebug env then Logged.emitAll es else return ()

structure Log where
  env : Environment
  /-- Whether the log was started before. -/
  started : Bool
  /-- The level from which on events are written, if they are. -/
  threshold : Option Level

namespace Log

def new (env : Environment) : Log := ⟨env, false, none⟩

def written (log : Log) (es : List Event) : List Event :=
  match log.threshold with
  | some t => es.filter fun e => t.admits e.level
  | none => []

def startEvent (env : Environment) : Event :=
  ⟨.debug, "tnsurl_core::logging", "tnsurl logging initialized",
    [("level", .text (level env).name.toList), ("format", .text (format env).name.toList)]⟩

/-- Start the log, unless it was started before. Without a word from the environment nothing is written. -/
def start (log : Log) : Logged Log :=
  if log.started then return log
  else if isDebug log.env || log.env.contains levelVariable.toList then do
    Logged.emit (startEvent log.env)
    return { log with started := true, threshold := some (level log.env) }
  else return { log with started := true }

inductive Start where
  | asIs
  /-- With a level that is put into the environment first. -/
  | atLevel (name : Text)
  /-- With debugging switched on in the environment first. -/
  | debugging
  deriving DecidableEq, Repr

def startWith (log : Log) : Start → Logged Log
  | .asIs => log.start
  | .atLevel name => start { log with env := log.env.set levelVariable.toList name }
  | .debugging => start { log with env := log.env.set debugVariable.toList "true".toList }

/-- Start the log several times over: what is left of it, and the events that are written. -/
def startAll (log : Log) : List Start → Log × List Event
  | [] => (log, [])
  | s :: rest =>
    let r := log.startWith s
    let (log', es) := startAll r.value rest
    (log', r.value.written r.events ++ es)

end Log

def fieldJson : FieldValue → Json
  | .text t => .string (String.ofList t)
  | .number n => .number n
  | .optional t => .string (String.ofList (Quoted.encodeOptional t))

def fieldText : FieldValue → Text
  | .text t => t
  | .number n => (toString n).toList
  | .optional t => Quoted.encodeOptional t

def eventJson (e : Event) : Json :=
  .object [("level", .string e.level.label),
    ("fields", .object (("message", .string e.message) :: e.fields.map fun (name, v) => (name, fieldJson v))),
    ("target", .string e.target)]

end Logging

end ConnectString
