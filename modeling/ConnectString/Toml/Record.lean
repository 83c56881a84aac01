/-
  ConnectString.Toml.Record — reading a record of settings out of a TOML value.

  A record is given by its fields, each with a name and a way to put a value into the record. A table fills fields by
  name and may hold no other keys; a list fills them in the order of their declaration. What is not mentioned keeps
  the value that it has in the record to start from.
-/

import ConnectString.Text.Quoted
import ConnectString.Toml.Value

namespace ConnectString.Toml

inductive Mismatch where
  /-- A key that is not among the names of the fields. -/
  | unknownField (key : Text) (known : List String)
  /-- A value of another type; the value and the type are given in words. -/
  | wrongType (found : Text) (expected : String)
  /-- A value of the right type that is out of range. -/
  | wrongValue (found : Text) (expected : String)
  deriving DecidableEq, Repr

namespace Mismatch

def choice (names : List String) : String :=
  match names.map fun n => s!"`{n}`" with
  | [] => ""
  | [a] => a
  | [a, b] => s!"{a} or {b}"
  | many => "one of " ++ ", ".intercalate many

def message : Mismatch → String
  | unknownField key known => s!"unknown field `{String.ofList key}`, expected {choice known}"
  | wrongType found expected => s!"invalid type: {String.ofList found}, expected {expected}"
  | wrongValue found expected => s!"invalid value: {String.ofList found}, expected {expected}"

end Mismatch

namespace Value

def describe : Value → Text
  | string t => "string ".toList ++ Quoted.encode t
  | integer n => s!"integer `{n}`".toList
  | float x => "floating point `".toList ++ x.render ++ ['`']
  | boolean b => s!"boolean `{b}`".toList
  | datetime | table _ _ => "map".toList
  | array _ _ => "sequence".toList

def asBoolean : Value → Except Mismatch Bool
  | boolean b => .ok b
  | v => .error (.wrongType v.describe "a boolean")

def asNatural : Value → Except Mismatch Nat
  | integer (.ofNat n) => .ok n
  | v@(integer (.negSucc _)) => .error (.wrongValue v.describe "usize")
  | v => .error (.wrongType v.describe "usize")

end Value

structure Field (α : Type) where
  name : String
  /-- Put a value into the record. -/
  fill : Value → α → Except Mismatch α

namespace Record

variable {α : Type}

/-- Fill the fields that the keys of a table name, in the order of the table. -/
def fillByName (fields : List (Field α)) : Entries → α → Except Mismatch α
  | [], a => .ok a
  | (k, v) :: es, a =>
    match fields.find? fun f => f.name.toList == k with
    | none => .error (.unknownField k (fields.map (·.name)))
    | some f =>
      match f.fill v a with
      | .ok a => fillByName fields es a
      | .error e => .error e

/-- Fill the fields in the order of their declaration. -/
def fillInOrder : List (Field α) → List Value → α → Except Mismatch α
  | f :: fields, v :: vs, a =>
    match f.fill v a with
    | .ok a => fillInOrder fields vs a
    | .error e => .error e
  | _, _, a => .ok a

/-- The key under which a date or time presents itself where a record is expected. -/
def datetimeKey : Text := "$__toml_private_datetime".toList

def fill (name : String) (fields : List (Field α)) (v : Value) (a : α) : Except Mismatch α :=
  match v with
  | .table _ es => fillByName fields es a
  | .array _ vs => fillInOrder fields vs a
  | .datetime => .error (.unknownField datetimeKey (fields.map (·.name)))
  | v => .error (.wrongType v.describe s!"struct {name}")

end Record

end ConnectString.Toml
