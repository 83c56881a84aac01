/-
  ConnectString.Toml.Scalar — TOML values without parts: truth values, numbers, dates and times.
-/

import ConnectString.Toml.Scan
import ConnectString.Toml.Value

namespace ConnectString.Toml

/-! ## Numbers -/

/-- More digits, each of which may stand behind a low line. -/
def moreDigits (isDigit : Char → Bool) : Text → Text × Text
  | '_' :: d :: t => if isDigit d then let (ds, r) := moreDigits isDigit t; (d :: ds, r) else ([], '_' :: d :: t)
  | d :: t => if isDigit d then let (ds, r) := moreDigits isDigit t; (d :: ds, r) else ([], d :: t)
  | [] => ([], [])

/-- A row of digits, with single low lines between them. -/
def digits? (isDigit : Char → Bool) : Text → Option (Text × Text)
  | d :: t => if isDigit d then let (ds, r) := moreDigits isDigit t; some (d :: ds, r) else none
  | [] => none

/-- The whole part of a decimal number: no zero stands before another digit. -/
def wholePart? : Text → Option (Text × Text)
  | '0' :: t => some (['0'], t)
  | t => digits? Decimal.isDigit t

/-- A sign, if there is one: whether it is a minus, and what follows. -/
def sign : Text → Bool × Text
  | '-' :: t => (true, t)
  | '+' :: t => (false, t)
  | t => (false, t)

def decimalValue (ds : Text) : Nat := Decimal.value 10 (ds.map Decimal.digitValue)

def exponent? (t : Text) : Option (Int × Text) := do
  let (negative, r) := sign t
  let (ds, r) ← digits? Decimal.isDigit r
  return (if negative then -(decimalValue ds : Int) else decimalValue ds, r)

/-- A number with a fraction or an exponent. One that is too large is refused, unless it is negative. -/
def float? (t : Text) : Option (Value × Text) := do
  let (negative, r) := sign t
  let (whole, r) ← wholePart? r
  let (fraction, r) ←
    match r with
    | '.' :: r' => digits? Decimal.isDigit r'
    | 'e' :: _ | 'E' :: _ => some ([], r)
    | _ => none
  let (exponent, r) ←
    match r with
    | 'e' :: r' | 'E' :: r' => exponent? r'
    | _ => some (0, r)
  let x := Binary64.ofDecimal negative (decimalValue (whole ++ fraction)) (exponent - fraction.length)
  if x = .infinite false then none else return (.float x, r)

def specialFloat? (t : Text) : Option (Value × Text) :=
  match sign t with
  | (negative, 'i' :: 'n' :: 'f' :: r) => some (.float (.infinite negative), r)
  | (_, 'n' :: 'a' :: 'n' :: r) => some (.float .notANumber, r)
  | _ => none

def whole? (n : Int) (r : Text) : Option (Value × Text) :=
  if -Int.pow 2 63 ≤ n && n < Int.pow 2 63 then some (.integer n, r) else none

/-- A whole number in base 16, 8 or 2, behind the mark of its base. -/
def based? (base : Nat) (t : Text) : Option (Value × Text) := do
  let isDigit (c : Char) : Bool := ((hexValue? c).filter (· < base)).isSome
  let (ds, r) ← digits? isDigit t
  whole? (Decimal.value base (ds.filterMap hexValue?)) r

def integer? : Text → Option (Value × Text)
  | '0' :: 'x' :: t => based? 16 t
  | '0' :: 'o' :: t => based? 8 t
  | '0' :: 'b' :: t => based? 2 t
  | t => do
    let (negative, r) := sign t
    let (ds, r) ← wholePart? r
    whole? (if negative then -(decimalValue ds : Int) else decimalValue ds) r

/-! ## Dates and times -/

def fixed? (count : Nat) (t : Text) : Option (Nat × Text) := do
  return (← Decimal.read? (t.take count) |>.filter fun _ => count ≤ t.length, t.drop count)

def twoDigits? (low high : Nat) (t : Text) : Option (Nat × Text) := do
  let (n, r) ← fixed? 2 t
  if low ≤ n && n ≤ high then return (n, r) else none

def expect? (c : Char) : Text → Option Text
  | d :: t => if d == c then some t else none
  | [] => none

def isLeapYear (year : Nat) : Bool := year % 4 == 0 && (year % 100 != 0 || year % 400 == 0)

def monthDays (year month : Nat) : Nat :=
  if month == 2 then if isLeapYear year then 29 else 28
  else if [4, 6, 9, 11].contains month then 30
  else 31

/-- What follows a date. -/
def date? (t : Text) : Option Text := do
  let (year, r) ← fixed? 4 t
  let (month, r) ← twoDigits? 1 12 (← expect? '-' r)
  let (_, r) ← twoDigits? 1 (monthDays year month) (← expect? '-' r)
  return r

def skipFraction : Text → Text
  | '.' :: t => if (t.takeWhile Decimal.isDigit).isEmpty then '.' :: t else t.dropWhile Decimal.isDigit
  | t => t

def time? (t : Text) : Option Text := do
  let (_, r) ← twoDigits? 0 23 t
  let (_, r) ← twoDigits? 0 59 (← expect? ':' r)
  let (_, r) ← twoDigits? 0 60 (← expect? ':' r)
  return skipFraction r

def offset? : Text → Option Text
  | 'Z' :: t | 'z' :: t => some t
  | '+' :: t | '-' :: t => do
    let (_, r) ← twoDigits? 0 23 t
    let (_, r) ← twoDigits? 0 59 (← expect? ':' r)
    return r
  | _ => none

/-- What follows a time of day and an offset behind a date, if they are there. -/
def afterDate (t : Text) : Text :=
  match t with
  | 'T' :: r | 't' :: r | ' ' :: r =>
    match time? r with
    | some r => (offset? r).getD r
    | none => t
  | _ => t

def datetime? (t : Text) : Option (Value × Text) :=
  match date? t with
  | some r => some (.datetime, afterDate r)
  | none => (time? t).map fun r => (.datetime, r)

/-! ## All of them -/

def scalar? : Text → Option (Value × Text)
  | 't' :: 'r' :: 'u' :: 'e' :: r => some (.boolean true, r)
  | 'f' :: 'a' :: 'l' :: 's' :: 'e' :: r => some (.boolean false, r)
  | t =>
    match string? t with
    | some (s, r) => some (.string s, r)
    | none => (datetime? t).orElse fun _ => (float? t).orElse fun _ => (specialFloat? t).orElse fun _ => integer? t

end ConnectString.Toml
