/-
  ConnectString.Resolve — from a connect string to an outcome.

    jdbc:tibero:thin:@host:port:sid
    jdbc:tibero:thin:@host:port/service
    jdbc:tibero:thin:user/password@host:port:sid
    jdbc:tibero:thin:@(DESCRIPTION=(ADDRESS=(HOST=h)(PORT=p))(CONNECT_DATA=(SERVICE_NAME=s)))
    jdbc:tibero:thin:@(DESCRIPTION_LIST=(DESCRIPTION=…)(DESCRIPTION=…))

  Resolution always comes to an outcome: what breaks off on the way to one is caught and counts as a failure.
  Credentials may contain '@' and so may the values of a descriptor: they end at the last '@' before the first '('.
  What follows is a descriptor if it starts with a parenthesis, blanks aside, and a flat url if not.
-/

import ConnectString.Descriptor.Reader
import ConnectString.Outcome
import ConnectString.Window

namespace ConnectString

def scheme : String := "jdbc:tibero:"

namespace Resolve

def event (level : Level) (message : String) (fields : List (String × FieldValue)) : Event :=
  ⟨level, "tnsurl_core::resolver", message, fields⟩

structure Found where
  endpoints : List Endpoint
  databaseId : Text
  deriving DecidableEq, Repr

/-- The window over a url that leaves out scheme, driver and credentials. -/
def body (url : Text) : Except Fault Window := do
  let w ← (Window.whole url).pastLiteral scheme.toList
  let w ← w.pastFirst ':'
  w.pastLastBefore '@' '('

def splitFlat (w : Window) : Except Fault (Text × Text × Text) := do
  let w ← w.upToAny [':']
  let host ← w.value
  let w ← w.onward.pastFirst ':'
  let w ← w.upToAny [':', '/']
  let port ← w.value
  let w ← w.onward.pastLastAny [':', '/']
  return (host, port, ← w.value)

def flat (host port id : Text) : Logged (Except Failure Found) := do
  Logged.emit (event .trace "flat url split" [("host", .text host), ("port", .text port), ("database_id", .text id)])
  if id.isEmpty then
    return .error (.ambiguousFlat
      s!"no database id after host `{String.ofList host}` and port `{String.ofList port}`")
  else return .ok ⟨[⟨host, port⟩], id⟩

def descriptor (r : Except Failure Descriptor.Tree) : Logged (Except Failure Found) := do
  match ← Descriptor.report r with
  | .error e => return .error e
  | .ok root =>
    match ← Descriptor.Spec.classify root with
    | .error e => return .error e
    | .ok spec =>
      if spec.isComplete then return .ok ⟨spec.endpoints, spec.databaseId.getD []⟩
      else return .error .missingDatabaseId

def attempt (reader : Descriptor.Reader) (limit : Nat) (url : Text) :
    ExceptT Fault Logged (Except Failure Found) := do
  if url.isEmpty then return .error .emptyInput
  else if !scheme.toList.isPrefixOf url then return .error (.schemeMismatch scheme)
  else
    let w ← body url
    let t := Text.trim (← w.value)
    if t.head? = some '(' then do
      Logged.emit (event .debug "descriptor url" [])
      descriptor (← reader limit t)
    else do
      Logged.emit (event .debug "flat url" [])
      let (host, port, id) ← splitFlat w
      flat host port id

/-- What breaks off fails. What was reported up to there has been reported. -/
def guard {α : Type} (x : ExceptT Fault Logged (Except Failure α)) : Logged (Except Failure α) := do
  match ← x.run with
  | .ok r => return r
  | .error fault => return .error (.panicked fault.message)

def conclude (url : Text) : Except Failure Found → Logged Outcome
  | .ok found => do
    Logged.emit (event .debug "jdbc url resolved"
      [("endpoints", .number found.endpoints.length), ("database_id", .text found.databaseId)])
    return .resolved url found.endpoints found.databaseId
  | .error failure => do
    Logged.emit (event .info "jdbc url could not be resolved"
      [("url", .text url), ("error", .text failure.message.toList)])
    return .unresolved url failure

end Resolve

open Resolve in
/-- Resolve a url with a way to read descriptors, which is never asked to go beyond the ceiling. -/
def resolveWith (reader : Descriptor.Reader) (limit : Nat) : Option Text → Logged Outcome
  | none => do
    Logged.emit (event .info "jdbc url must not be null" [])
    return .unresolved [] .missingInput
  | some url => do
    Logged.emit (event .debug "Resolver::resolve()" [("url_len", .number (Text.byteLength url))])
    conclude url (← guard (attempt reader (Descriptor.effectiveLimit limit) url))

def resolve (limit : Nat) : Option Text → Logged Outcome := resolveWith Descriptor.reader limit

end ConnectString
