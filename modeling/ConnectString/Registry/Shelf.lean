/-
  ConnectString.Registry.Shelf — numbered registries, and the steps that a host takes with them.

  A step touches the registry in its own slot and no other. A slot that was never used holds an empty registry.
-/

import ConnectString.Registry
import ConnectString.Settings.Override

namespace ConnectString

structure Shelf where
  registry : Nat → Registry

namespace Shelf

def empty : Shelf := ⟨fun _ => .empty⟩

def put (s : Shelf) (slot : Nat) (r : Registry) : Shelf := ⟨fun i => if i = slot then r else s.registry i⟩

inductive Action where
  | parse (url : Option Text)
  | add (d : Dialect)
  /-- Set the plug-in up. -/
  | setup (p : PluginSettings) (limit : Nat)
  /-- Set the plug-in up with the settings in a text, which the same environment expands and overrides. -/
  | setupFrom (toml : Text) (env : Environment)
  /-- Become a copy of the registry in another slot. -/
  | copy (source : Nat)

inductive Answer where
  | outcome (o : Outcome)
  | done
  | registered (b : Bool)
  | refused (e : Settings.Failure)
  deriving DecidableEq

/-- The settings in a text with the overrides of the same environment. -/
def settingsFrom (codec : Toml.Codec) (toml : Text) (env : Environment) : Except Settings.Failure Settings :=
  match Settings.parse codec env toml with
  | .ok s => s.override env
  | .error e => .error e

/-- What an action makes of a registry; `others` are the registries that it may copy. -/
def act (codec : Toml.Codec) (others : Nat → Registry) (r : Registry) : Action → Logged (Answer × Registry)
  | .parse url => do return (.outcome (← r.parse url), r)
  | .add d => return (.done, r.add d)
  | .setup p limit => do
    let (b, r) ← r.setup p limit
    return (.registered b, r)
  | .setupFrom toml env =>
    match settingsFrom codec toml env with
    | .error e => return (.refused e, r)
    | .ok s => do
      let (b, r) ← r.setup s.plugin s.maxDepth
      return (.registered b, r)
  | .copy source => return (.done, others source)

def step (codec : Toml.Codec) (s : Shelf) (slot : Nat) (a : Action) : Logged (Answer × Shelf) := do
  let (answer, r) ← act codec s.registry (s.registry slot) a
  return (answer, s.put slot r)

/-- Take actions one after the other; the answer to each, with the registry of its slot afterwards. -/
def run (codec : Toml.Codec) (s : Shelf) : List (Nat × Action) → Logged (List (Answer × Registry) × Shelf)
  | [] => return ([], s)
  | (slot, a) :: rest => do
    let (answer, s) ← s.step codec slot a
    let (answers, s') ← run codec s rest
    return ((answer, s.registry slot) :: answers, s')

end Shelf

end ConnectString
