/-
  ConnectString.Json — JSON values and their text, compact or over several lines.

  Strings keep every character as it is but the quote, the backslash and the control characters below U+0020. The
  long form sets each item on a line of its own, two spaces deeper than what holds it; an empty list or object stays
  on one line.
-/

namespace ConnectString

inductive Json where
  | null
  | boolean (b : Bool)
  | number (n : Nat)
  | string (s : String)
  | array (items : List Json)
  | object (entries : List (String × Json))

namespace Json

def hexDigit (n : Nat) : Char := Nat.digitChar (n % 16)

def escapeChar (c : Char) : String :=
  if c == '"' then "\\\""
  else if c == '\\' then "\\\\"
  else if c == '\x08' then "\\b"
  else if c == '\t' then "\\t"
  else if c == '\n' then "\\n"
  else if c == '\x0C' then "\\f"
  else if c == '\r' then "\\r"
  else if c.toNat < 0x20 then String.ofList ['\\', 'u', '0', '0', hexDigit (c.toNat / 16), hexDigit c.toNat]
  else c.toString

def quote (s : String) : String := "\"" ++ String.join (s.toList.map escapeChar) ++ "\""

/-- The line break and the blanks before an item at the given depth. -/
def newLine (depth : Nat) : String := "\n" ++ String.ofList (List.replicate (2 * depth) ' ')

mutual

/-- The long form of a value whose items stand at depth `depth + 1`. -/
def prettyAt (depth : Nat) : Json → String
  | null => "null"
  | boolean b => if b then "true" else "false"
  | number n => toString n
  | string s => quote s
  | array [] => "[]"
  | array (j :: js) =>
    "[" ++ newLine (depth + 1) ++ prettyAt (depth + 1) j ++ prettyItems (depth + 1) js ++ newLine depth ++ "]"
  | object [] => "\x7b\x7d"
  | object ((k, j) :: es) =>
    "\x7b" ++ newLine (depth + 1) ++ quote k ++ ": " ++ prettyAt (depth + 1) j ++ prettyEntries (depth + 1) es ++
      newLine depth ++ "\x7d"

def prettyItems (depth : Nat) : List Json → String
  | [] => ""
  | j :: js => "," ++ newLine depth ++ prettyAt depth j ++ prettyItems depth js

def prettyEntries (depth : Nat) : List (String × Json) → String
  | [] => ""
  | (k, j) :: es => "," ++ newLine depth ++ quote k ++ ": " ++ prettyAt depth j ++ prettyEntries depth es

end

def pretty (j : Json) : String := prettyAt 0 j

mutual

def compact : Json → String
  | null => "null"
  | boolean b => if b then "true" else "false"
  | number n => toString n
  | string s => quote s
  | array js => "[" ++ ",".intercalate (compactItems js) ++ "]"
  | object es => "\x7b" ++ ",".intercalate (compactEntries es) ++ "\x7d"

def compactItems : List Json → List String
  | [] => []
  | j :: js => compact j :: compactItems js

def compactEntries : List (String × Json) → List String
  | [] => []
  | (k, j) :: es => (quote k ++ ":" ++ compact j) :: compactEntries es

end

end Json

end ConnectString
