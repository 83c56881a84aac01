/-
  ConnectString.Toml.Codec — what is asked of TOML: to read a text, and to write a document.

  A program reads and writes TOML through a `Codec` and knows nothing else of it. What is written are documents of
  tables, each at the end of a path of names, that hold truth values and natural numbers. The text of such a document
  (`Document.text`) has a header for each table, a line `name = value` for each of its rows, and an empty line between
  two tables.
-/

import ConnectString.Number.Decimal
import ConnectString.Toml.Value

namespace ConnectString.Toml

inductive Item where
  | boolean (b : Bool)
  | integer (n : Nat)
  deriving DecidableEq, Repr

structure Section where
  path : List Text
  rows : List (Text × Item)
  deriving DecidableEq, Repr

/-- Tables in the order in which they are written. -/
abbrev Document := List Section

structure Codec where
  /-- The table of a text, if the text is TOML. -/
  read : Text → Option Entries
  /-- The text of a document, if it can be written. -/
  write : Document → Option Text

/-- The least number that is too large for a whole number of 64 bits with a sign. -/
def integerBound : Nat := Nat.pow 2 63

namespace Item

def value : Item → Value
  | boolean b => .boolean b
  | integer n => .integer n

def fits : Item → Bool
  | boolean _ => true
  | integer n => n < integerBound

def text : Item → Text
  | boolean b => if b then "true".toList else "false".toList
  | integer n => Decimal.write n

end Item

/-- The line `name = value` of a row. -/
def rowText (row : Text × Item) : Text := row.1 ++ " = ".toList ++ row.2.text ++ ['\n']

/-- The header of a table in brackets, and its rows. -/
def Section.text (s : Section) : Text := '[' :: List.intercalate ['.'] s.path ++ "]\n".toList ++ s.rows.flatMap rowText

namespace Document

def fits (d : Document) : Bool := d.all fun s => s.rows.all fun row => row.2.fits

def text (d : Document) : Text := List.intercalate ['\n'] (d.map Section.text)

end Document

end ConnectString.Toml
