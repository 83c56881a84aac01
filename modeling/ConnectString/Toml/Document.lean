/-
  ConnectString.Toml.Document — a TOML document: its lines, and the table that they make.

  `statements?` reads the lines; `Entries.ofStatements?` carries them out. A text is a document if both succeed.
-/

import ConnectString.Toml.Scalar

namespace ConnectString.Toml

/-! ## Values with parts -/

/-- The items of a list, behind the opening bracket or a comma, up to and with the closing bracket. -/
def items? (item? : Text → Option (Value × Text)) : Nat → Text → Option (List Value × Text)
  | 0, _ => none
  | fuel + 1, t =>
    match skipTrivia false t with
    | none => none
    | some (']' :: r) => some ([], r)
    | some t =>
      match item? t with
      | none => none
      | some (v, r) =>
        match skipTrivia false r with
        | some (',' :: r) => (items? item? fuel r).map fun (vs, r) => (v :: vs, r)
        | some (']' :: r) => some ([v], r)
        | _ => none

def pair? (value? : Text → Option (Value × Text)) (t : Text) : Option ((List Text × Value) × Text) :=
  match key? nestingLimit t with
  | some (k, '=' :: r) => (value? (skipSpaces r)).map fun (v, r) => ((k, v), r)
  | _ => none

/-- The pairs between braces, up to and with the closing brace. They stand on one line, and there is at least one. -/
def pairs? (value? : Text → Option (Value × Text)) : Nat → Text → Option (List (List Text × Value) × Text)
  | 0, _ => none
  | fuel + 1, t =>
    match pair? value? t with
    | none => none
    | some (p, r) =>
      match skipSpaces r with
      | ',' :: r => (pairs? value? fuel r).map fun (ps, r) => (p :: ps, r)
      | '\x7d' :: r => some ([p], r)
      | _ => none

/-- A value in which lists and tables nest at most so deep. -/
def value? : Nat → Text → Option (Value × Text)
  | depth + 1, '[' :: t => (items? (value? depth) (t.length + 1) t).map fun (vs, r) => (.array false vs, r)
  | depth + 1, '\x7b' :: t =>
    match skipSpaces t with
    | '\x7d' :: r => some (.table .braces [], r)
    | _ =>
      match pairs? (value? depth) (t.length + 1) t with
      | some (ps, r) => (Entries.putAll [] ps).map fun es => (.table .braces es, r)
      | none => none
  | _, t => scalar? t

/-! ## Lines -/

inductive Statement where
  /-- `key = value` -/
  | assign (key : List Text) (v : Value)
  /-- A header in brackets, or in double brackets (`adding`). -/
  | header (adding : Bool) (key : List Text)
  deriving Repr

def statement? : Text → Option (Statement × Text)
  | '[' :: '[' :: t =>
    match key? nestingLimit t with
    | some (k, ']' :: ']' :: r) => some (.header true k, r)
    | _ => none
  | '[' :: t =>
    match key? nestingLimit t with
    | some (k, ']' :: r) => some (.header false k, r)
    | _ => none
  | t => (pair? (value? nestingLimit) t).map fun ((k, v), r) => (.assign k v, r)

/-- Whether nothing but a comment is left of a line, or not even that. -/
def isBareLine : Text → Bool
  | [] => true
  | c :: _ => c == '#' || c == '\n' || c == '\r'

def statements? : Nat → Text → Option (List Statement)
  | 0, _ => none
  | fuel + 1, t =>
    match skipSpaces t with
    | [] => some []
    | t =>
      if isBareLine t then
        match endOfLine? t with
        | some r => statements? fuel r
        | none => none
      else
        match statement? t with
        | none => none
        | some (s, r) =>
          match endOfLine? r with
          | some r => (statements? fuel r).map (s :: ·)
          | none => none

/-! ## The table of a document -/

/-- Keys and values from the front of a document up to its next header. -/
def leadingPairs : List Statement → List (List Text × Value)
  | .assign k v :: rest => (k, v) :: leadingPairs rest
  | _ => []

def Entries.openAll? (es : Entries) : List Statement → Option Entries
  | [] => some es
  | .assign _ _ :: rest => openAll? es rest
  | .header adding key :: rest =>
    match key.getLast? with
    | none => none
    | some k =>
      match inside (if adding then add? k (leadingPairs rest) else open? k (leadingPairs rest)) key.dropLast es with
      | some es => openAll? es rest
      | none => none

def Entries.ofStatements? (ss : List Statement) : Option Entries :=
  match putAll [] (leadingPairs ss) with
  | some es => openAll? es ss
  | none => none

def skipMark : Text → Text
  | '\ufeff' :: t => t
  | t => t

def parse? (t : Text) : Option Entries :=
  match statements? ((skipMark t).length + 1) (skipMark t) with
  | some ss => Entries.ofStatements? ss
  | none => none

end ConnectString.Toml
