/-
  ConnectString.Toml.Scan — the smallest parts of a TOML text: blanks, comments, ends of lines, keys and quoted text.

  A reader takes a part off the front of a text and gives back what it read and what is left; it has no answer where
  the text does not start with such a part.
-/

import ConnectString.Text.Blank
import ConnectString.Number.Decimal

namespace ConnectString.Toml

def isSpace (c : Char) : Bool := c == ' ' || c == '\t'

/-- What comments and quoted text may hold: all characters but the controls, of which the tab is let through. -/
def isVisible (c : Char) : Bool := c == '\t' || (0x20 ≤ c.toNat && c.toNat != 0x7F)

def isBareKey (c : Char) : Bool := c.isAlphanum || c == '_' || c == '-'

def skipSpaces (t : Text) : Text := t.dropWhile isSpace

def skipComment : Text → Text
  | '#' :: t => t.dropWhile isVisible
  | t => t

/-- What follows the rest of a line, if that holds nothing but spaces and a comment. -/
def endOfLine? (t : Text) : Option Text :=
  match skipComment (skipSpaces t) with
  | [] => some []
  | '\n' :: r => some r
  | '\r' :: '\n' :: r => some r
  | _ => none

/-- Leave out spaces, comments and line ends, as between the items of a list. A comment has to end with its line. -/
def skipTrivia (inComment : Bool) : Text → Option Text
  | [] => if inComment then none else some []
  | '\n' :: t => skipTrivia false t
  | '\r' :: '\n' :: t => skipTrivia false t
  | c :: t =>
    if inComment then if isVisible c then skipTrivia true t else none
    else if isSpace c then skipTrivia false t
    else if c == '#' then skipTrivia true t
    else some (c :: t)

/-! ## Quoted text -/

def hexValue? (c : Char) : Option Nat :=
  let n := c.toNat
  if 48 ≤ n && n ≤ 57 then some (n - 48)
  else if 97 ≤ n && n ≤ 102 then some (n - 87)
  else if 65 ≤ n && n ≤ 70 then some (n - 55)
  else none

def numbered? (digits : List Char) : Option Char := do
  let n := Decimal.value 16 (← digits.mapM hexValue?)
  if h : n.isValidChar then some (Char.ofNatAux n h) else none

def escaped? : Char → Option Char
  | 'b' => some '\x08'
  | 't' => some '\t'
  | 'n' => some '\n'
  | 'f' => some '\x0C'
  | 'r' => some '\r'
  | '"' => some '"'
  | '\\' => some '\\'
  | _ => none

def push (c : Char) (r : Option (Text × Text)) : Option (Text × Text) := r.map fun (a, b) => (c :: a, b)

/-- Text between double quotes on one line, behind the opening quote. -/
def quoted? : Text → Option (Text × Text)
  | [] => none
  | '"' :: t => some ([], t)
  | '\\' :: 'u' :: a :: b :: c :: d :: t =>
    match numbered? [a, b, c, d] with
    | some x => push x (quoted? t)
    | none => none
  | '\\' :: 'U' :: a :: b :: c :: d :: e :: f :: g :: h :: t =>
    match numbered? [a, b, c, d, e, f, g, h] with
    | some x => push x (quoted? t)
    | none => none
  | '\\' :: e :: t =>
    match escaped? e with
    | some x => push x (quoted? t)
    | none => none
  | c :: t => if isVisible c && c != '\\' then push c (quoted? t) else none

inductive Fold where
  | no
  /-- Behind a backslash, on the way to the end of its line. -/
  | toLineEnd
  /-- Behind such a line end: blanks are left out. -/
  | blanks
  deriving DecidableEq, Repr

/-- Text between triple double quotes, behind the opening quotes and a line end that follows them. -/
def quotedLines? : Fold → Text → Option (Text × Text)
  | _, [] => none
  | .toLineEnd, '\n' :: t => quotedLines? .blanks t
  | .toLineEnd, '\r' :: '\n' :: t => quotedLines? .blanks t
  | .toLineEnd, c :: t => if isSpace c then quotedLines? .toLineEnd t else none
  | .blanks, '\n' :: t => quotedLines? .blanks t
  | .blanks, '\r' :: '\n' :: t => quotedLines? .blanks t
  | .blanks, ' ' :: t => quotedLines? .blanks t
  | .blanks, '\t' :: t => quotedLines? .blanks t
  | _, '"' :: '"' :: '"' :: '"' :: '"' :: t => some (['"', '"'], t)
  | _, '"' :: '"' :: '"' :: '"' :: t => some (['"'], t)
  | _, '"' :: '"' :: '"' :: t => some ([], t)
  | _, '\\' :: 'u' :: a :: b :: c :: d :: t =>
    match numbered? [a, b, c, d] with
    | some x => push x (quotedLines? .no t)
    | none => none
  | _, '\\' :: 'U' :: a :: b :: c :: d :: e :: f :: g :: h :: t =>
    match numbered? [a, b, c, d, e, f, g, h] with
    | some x => push x (quotedLines? .no t)
    | none => none
  | _, '\\' :: '\n' :: t => quotedLines? .blanks t
  | _, '\\' :: '\r' :: '\n' :: t => quotedLines? .blanks t
  | _, '\\' :: e :: t =>
    if isSpace e then quotedLines? .toLineEnd t
    else
      match escaped? e with
      | some x => push x (quotedLines? .no t)
      | none => none
  | _, '\n' :: t => push '\n' (quotedLines? .no t)
  | _, '\r' :: '\n' :: t => push '\n' (quotedLines? .no t)
  | _, c :: t => if isVisible c && c != '\\' then push c (quotedLines? .no t) else none

def verbatim? : Text → Option (Text × Text)
  | [] => none
  | '\'' :: t => some ([], t)
  | c :: t => if isVisible c then push c (verbatim? t) else none

/-- Text between triple single quotes, behind the opening quotes and a line end that follows them. -/
def verbatimLines? : Text → Option (Text × Text)
  | [] => none
  | '\'' :: '\'' :: '\'' :: '\'' :: '\'' :: t => some (['\'', '\''], t)
  | '\'' :: '\'' :: '\'' :: '\'' :: t => some (['\''], t)
  | '\'' :: '\'' :: '\'' :: t => some ([], t)
  | '\n' :: t => push '\n' (verbatimLines? t)
  | '\r' :: '\n' :: t => push '\n' (verbatimLines? t)
  | c :: t => if isVisible c then push c (verbatimLines? t) else none

def skipLineEnd : Text → Text
  | '\n' :: t => t
  | '\r' :: '\n' :: t => t
  | t => t

def string? : Text → Option (Text × Text)
  | '"' :: '"' :: '"' :: t => quotedLines? .no (skipLineEnd t)
  | '"' :: t => quoted? t
  | '\'' :: '\'' :: '\'' :: t => verbatimLines? (skipLineEnd t)
  | '\'' :: t => verbatim? t
  | _ => none

/-! ## Keys -/

def keyPart? : Text → Option (Text × Text)
  | '"' :: t => quoted? t
  | '\'' :: t => verbatim? t
  | t => if (t.takeWhile isBareKey).isEmpty then none else some (t.takeWhile isBareKey, t.dropWhile isBareKey)

/-- A key of at most so many parts with dots between them, and the spaces around it. -/
def key? : Nat → Text → Option (List Text × Text)
  | 0, _ => none
  | parts + 1, t =>
    match keyPart? (skipSpaces t) with
    | none => none
    | some (k, r) =>
      match skipSpaces r with
      | '.' :: r' => (key? parts r').map fun (ks, r'') => (k :: ks, r'')
      | r' => some ([k], r')

/-- A key has fewer than eighty parts, and lists and tables nest fewer than eighty deep. -/
def nestingLimit : Nat := 79

end ConnectString.Toml
