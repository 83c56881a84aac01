/-
  ConnectString.Toml.Value — the values of a TOML document, and how keys are put into its tables.

  A table remembers where it comes from, because that decides what may still be put into it: a header or braces close
  it, dotted keys may go on filling what dotted keys began, and a table that is only implied by a longer header may
  still get a header of its own. No key is ever put down twice.
-/

import ConnectString.Number.Binary64

namespace ConnectString.Toml

inductive Origin where
  /-- A header of its own, or the document itself. -/
  | header
  /-- Named on the way by the header of a table below it. -/
  | implied
  /-- Named on the way by a dotted key. -/
  | dotted
  /-- Written in braces. -/
  | braces
  deriving DecidableEq, Repr

inductive Value where
  | string (t : Text)
  | integer (n : Int)
  | float (x : Binary64)
  | boolean (b : Bool)
  | datetime
  /-- A list; `growing` if it was made by headers in double brackets, which may add to it. -/
  | array (growing : Bool) (items : List Value)
  | table (origin : Origin) (entries : List (Text × Value))
  deriving Repr

/-- The entries of a table, in the order in which they were put down. -/
abbrev Entries := List (Text × Value)

namespace Entries

def get? (es : Entries) (k : Text) : Option Value := (es.find? fun e => e.1 == k).map Prod.snd

def replace (es : Entries) (k : Text) (v : Value) : Entries := es.map fun e => if e.1 == k then (k, v) else e

def erase (es : Entries) (k : Text) : Entries := es.filter fun e => e.1 != k

/-- The entries of the last table of a list, with what stands before it. -/
def lastTable? (items : List Value) : Option (List Value × Origin × Entries) :=
  match items.getLast? with
  | some (.table o es) => some (items.dropLast, o, es)
  | _ => none

/-- Put a value under a key below a path of dotted keys. Only a table that dotted keys began may take it, or the one
    that the path starts from (`takes`). -/
def assign (takes : Bool) : List Text → Text → Value → Entries → Option Entries
  | [], key, v, es => if takes && (get? es key).isNone then some (es ++ [(key, v)]) else none
  | k :: path, key, v, es =>
    match get? es k with
    | none => do return es ++ [(k, .table .dotted (← assign true path key v []))]
    | some (.table .dotted sub) => do return replace es k (.table .dotted (← assign true path key v sub))
    | some (.table .implied sub) => do return replace es k (.table .implied (← assign false path key v sub))
    | some (.array true items) => do
      let (before, o, sub) ← lastTable? items
      return replace es k (.array true (before ++ [.table o (← assign false path key v sub)]))
    | _ => none

def put (es : Entries) (key : List Text) (v : Value) : Option Entries :=
  match key.getLast? with
  | some k => assign true key.dropLast k v es
  | none => none

def putAll (es : Entries) : List (List Text × Value) → Option Entries
  | [] => some es
  | (key, v) :: rest => do putAll (← put es key v) rest

/-- Change the table that the front of a header leads to. Tables that are not there yet are implied. -/
def inside (change : Entries → Option Entries) : List Text → Entries → Option Entries
  | [], es => change es
  | k :: path, es =>
    match get? es k with
    | none => do return es ++ [(k, .table .implied (← inside change path []))]
    | some (.table .braces _) => none
    | some (.table o sub) => do return replace es k (.table o (← inside change path sub))
    | some (.array true items) => do
      let (before, o, sub) ← lastTable? items
      return replace es k (.array true (before ++ [.table o (← inside change path sub)]))
    | _ => none

/-- Give a table its header and fill it. Only an implied table may be there already; it moves to the end. -/
def open? (k : Text) (body : List (List Text × Value)) (es : Entries) : Option Entries :=
  match get? es k with
  | none => do return es ++ [(k, .table .header (← putAll [] body))]
  | some (.table .implied sub) => do return erase es k ++ [(k, .table .header (← putAll sub body))]
  | _ => none

def add? (k : Text) (body : List (List Text × Value)) (es : Entries) : Option Entries :=
  match get? es k with
  | none => do return es ++ [(k, .array true [.table .header (← putAll [] body)])]
  | some (.array true items) => do
    return replace es k (.array true (items ++ [.table .header (← putAll [] body)]))
  | _ => none

end Entries

end ConnectString.Toml
