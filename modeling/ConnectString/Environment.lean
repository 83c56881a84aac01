/-
  ConnectString.Environment — environment variables.

  An environment is known by its look-up. `ofList` looks names up in a list of variables; `ofProcess` does so as a
  process does, where a variable is a line `name=value`: the empty name and a name with a NUL are never found.
-/

import ConnectString.Text

namespace ConnectString

structure Environment where
  /-- The value of a variable, if it is set. -/
  get? : Text → Option Text

namespace Environment

def contains (env : Environment) (name : Text) : Bool := (env.get? name).isSome

/-- The environment that holds just the listed variables; of two with one name the first counts. -/
def ofList (entries : List (Text × Text)) : Environment :=
  ⟨fun name => (entries.find? fun v => v.1 == name).map Prod.snd⟩

/-- What a line of a process environment says about a name: the text behind `name=`. -/
def valueInLine? (name line : Text) : Option Text :=
  if (name ++ ['=']).isPrefixOf line then some (line.drop (name.length + 1)) else none

def ofProcess (entries : List (Text × Text)) : Environment :=
  ⟨fun name =>
    if name.isEmpty || name.contains '\x00' then none
    else (entries.map fun v => v.1 ++ '=' :: v.2).findSome? (valueInLine? name)⟩

def set (env : Environment) (name value : Text) : Environment :=
  ⟨fun n => if n == name then some value else env.get? n⟩

end Environment

end ConnectString
