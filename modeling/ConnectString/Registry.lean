/-
  ConnectString.Registry — an ordered list of url dialects, each of which is tried in turn.

  A url goes to the first dialect that resolves it. Where none does, the first dialect's word stands; where there is
  none at all, the url belongs to an unknown database. The plug-in adds the Tibero dialect, if it is enabled.
-/

import ConnectString.Resolve
import ConnectString.Settings
import ConnectString.Text.Quoted

namespace ConnectString

structure Dialect where
  name : String
  serviceType : ServiceType
  resolve : Option Text → Logged Outcome

namespace Dialect

def tibero (limit : Nat) : Dialect := ⟨"TiberoJdbcUrlParser", .tibero, ConnectString.resolve limit⟩

/-- Resolves whatever it is given, to a database without endpoints. -/
def accepting (name : String) (databaseId : Text) : Dialect :=
  ⟨name, .unknown, fun url => return .resolved (url.getD []) [] databaseId⟩

def rejecting (name : String) (failure : Failure) : Dialect :=
  ⟨name, .unknown, fun url => return .unresolved (url.getD []) failure⟩

end Dialect

/-- Dialects in the order in which they are tried. -/
structure Registry where
  dialects : List Dialect

namespace Registry

def empty : Registry := ⟨[]⟩

def add (r : Registry) (d : Dialect) : Registry := ⟨r.dialects ++ [d]⟩

def names (r : Registry) : List String := r.dialects.map (·.name)

/-- What there is to say about a url where no dialect is at hand. -/
def unclaimed : Option Text → Outcome
  | none => .unresolved [] .missingInput
  | some url => .unresolved url (.schemeMismatch scheme)

/-- Try dialects in turn; `first` is what the first one tried said, if it did not resolve the url. -/
def tryAll (url : Option Text) : Option Outcome → List Dialect → Logged Outcome
  | first, [] => return first.getD (unclaimed url)
  | first, d :: ds => do
    let o ← d.resolve url
    if o.isComplete then return o else tryAll url (first.or (some o)) ds

def parse (r : Registry) (url : Option Text) : Logged Outcome := tryAll url none r.dialects

def describe (r : Registry) : String :=
  "ParserRegistry \x7b parsers: [" ++
    ", ".intercalate (r.names.map fun n => String.ofList (Quoted.encode n.toList)) ++ "] \x7d"

/-- Add the Tibero dialect if the plug-in is enabled, and say whether it was. -/
def setup (r : Registry) (p : PluginSettings) (limit : Nat) : Logged (Bool × Registry) := do
  if p.enable then
    Logged.emit ⟨.info, "tnsurl_core::plugin", "TiberoPlugin config", [("config", .text p.render.toList)]⟩
    return (true, r.add (.tibero limit))
  else
    Logged.emit ⟨.info, "tnsurl_core::plugin", "TiberoPlugin disabled", []⟩
    return (false, r)

end Registry

end ConnectString
