/-
  ConnectString.Settings.Override — settings that environment variables override.

  Four of the settings have a variable of their own. A variable that is set and cannot be used refuses all of them:
  either every override takes effect or none does.
-/

import ConnectString.Settings.Load

namespace ConnectString

def Text.lower (t : Text) : Text := t.map Char.toLower

namespace Settings

def enableVariable : String := "TNSURL_TIBERO_ENABLE"
def traceVariable : String := "TNSURL_TIBERO_TRACE_SQL_BIND_VALUE"
def sizeVariable : String := "TNSURL_TIBERO_MAX_SQL_BIND_VALUE_SIZE"
def depthVariable : String := "TNSURL_RESOLVER_MAX_DEPTH"

/-- A truth value in words, blanks at its ends and case aside. -/
def boolean? (t : Text) : Option Bool :=
  let word := Text.lower (Text.trim t)
  if ["true", "1", "yes", "on"].any fun w => w.toList == word then some true
  else if ["false", "0", "no", "off"].any fun w => w.toList == word then some false
  else none

def skipPlus : Text → Text
  | '+' :: t => t
  | t => t

/-- A natural number of 64 bits in decimal digits, blanks at its ends and a plus sign aside. -/
def natural? (t : Text) : Option Nat := (Decimal.read? (skipPlus (Text.trim t))).filter (· < Nat.pow 2 64)

def readVariable {α : Type} (env : Environment) (name : String) (read? : Text → Option α) (expected : String) :
    Except Failure (Option α) :=
  match env.get? name.toList with
  | none => .ok none
  | some t =>
    match read? t with
    | some a => .ok (some a)
    | none => .error (.invalidVariable name.toList s!"expected {expected}, got '{String.ofList t}'".toList)

def booleanVariable (env : Environment) (name : String) : Except Failure (Option Bool) :=
  readVariable env name boolean? "a boolean"

def naturalVariable (env : Environment) (name : String) : Except Failure (Option Nat) :=
  readVariable env name natural? "a non-negative integer"

def depthOverride (env : Environment) : Except Failure (Option Nat) :=
  match naturalVariable env depthVariable with
  | .ok (some depth) =>
    match depthFault? depth with
    | some message => .error (.invalidVariable depthVariable.toList message.toList)
    | none => .ok (some depth)
  | r => r

def override (s : Settings) (env : Environment) : Except Failure Settings := do
  let enable ← booleanVariable env enableVariable
  let trace ← booleanVariable env traceVariable
  let size ← naturalVariable env sizeVariable
  let depth ← depthOverride env
  return {
    plugin := { s.plugin with
      enable := enable.getD s.plugin.enable
      traceSqlBindValue := trace.getD s.plugin.traceSqlBindValue
      maxSqlBindValueSize := size.getD s.plugin.maxSqlBindValueSize }
    maxDepth := depth.getD s.maxDepth }

/-- Apply one environment after the other, each to the last settings that were good: the result of each, in order. -/
def layers (s : Settings) : List Environment → List (Except Failure Settings)
  | [] => []
  | env :: envs =>
    match s.override env with
    | .ok s' => .ok s' :: layers s' envs
    | .error e => .error e :: layers s envs

end Settings

end ConnectString
