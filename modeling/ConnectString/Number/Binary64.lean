/-
  ConnectString.Number.Binary64 — floating-point numbers of 64 bits, from decimal text and back.

  A finite number is `mantissa * 2 ^ exponent` with a mantissa below 2 ^ 53 and an exponent from -1074 to 971.
  `ofDecimal` rounds `digits * 10 ^ scale` to the nearest number, a half to the even mantissa. `render` writes the
  fewest decimal digits that only this number is nearest to, and of those with as many digits the nearest, always
  positionally and with a decimal point. All of it is exact arithmetic on natural numbers.
-/

import ConnectString.Number.Decimal

namespace ConnectString

inductive Binary64 where
  | finite (negative : Bool) (mantissa : Nat) (exponent : Int)
  | infinite (negative : Bool)
  | notANumber
  deriving DecidableEq, Repr

namespace Binary64

/-! ## From decimal text -/

/-- The nearest whole number to a quotient, a half going to the even one. -/
def roundHalfEven (num den : Nat) : Nat :=
  let q := num / den
  let twice := 2 * (num % den)
  if twice < den || (twice == den && q % 2 == 0) then q else q + 1

def mantissaAt (num den : Nat) (e : Int) : Nat := roundHalfEven (num * Nat.pow 2 (-e).toNat) (den * Nat.pow 2 e.toNat)

def nearest (negative : Bool) (num den : Nat) : Binary64 :=
  let above : Int := max ((num.log2 : Int) - den.log2 - 52) (-1074)
  let below : Int := max (above - 1) (-1074)
  let e := if mantissaAt num den below < Nat.pow 2 53 then below else above
  let m := mantissaAt num den e
  let (m, e) := if m = Nat.pow 2 53 then (Nat.pow 2 52, e + 1) else (m, e)
  if e > 971 then infinite negative else finite negative m e

/-- The number nearest to `digits * 10 ^ scale`. -/
def ofDecimal (negative : Bool) (digits : Nat) (scale : Int) : Binary64 :=
  let magnitude : Int := (Decimal.write digits).length + scale
  if digits = 0 || magnitude < -400 then finite negative 0 (-1074)
  else if magnitude > 400 then infinite negative
  else nearest negative (digits * Nat.pow 10 scale.toNat) (Nat.pow 10 (-scale).toNat)

/-! ## To decimal text -/

/-- Of the two multiples of `10 ^ s` beside `m * 2 ^ e`, the nearer one of those that only this number is nearest to,
    divided by `10 ^ s`. The quantities are whole multiples of one small unit; a quarter of `2 ^ e` is `quarter`
    units and `10 ^ s` is `grid` units. -/
def onGrid? (m : Nat) (e s : Int) : Option Nat :=
  let quarter := Nat.pow 2 (e - 2).toNat * Nat.pow 10 (-s).toNat
  let grid := Nat.pow 10 s.toNat * Nat.pow 2 (2 - e).toNat
  let low := (4 * m - if m = Nat.pow 2 52 && e > -1074 then 1 else 2) * quarter
  let high := (4 * m + 2) * quarter
  let inside (x : Nat) : Bool := if m % 2 = 0 then low ≤ x && x ≤ high else low < x && x < high
  let d := 4 * m * quarter / grid
  let down := d != 0 && inside (d * grid)
  let up := inside ((d + 1) * grid)
  if down && (!up || 2 * (4 * m * quarter - d * grid) < grid) then some d
  else if up then some (d + 1)
  else none

/-- The fewest digits for a number, looked for on ever finer grids. -/
def shortestFrom (m : Nat) (e : Int) : Nat → Int → Nat × Int
  | 0, s => (0, s)
  | fuel + 1, s =>
    match onGrid? m e s with
    | some d => (d, s)
    | none => shortestFrom m e fuel (s - 1)

/-- The fewest digits `d` and the scale `s` for which only this number is nearest to `d * 10 ^ s`. -/
def shortest (m : Nat) (e : Int) : Nat × Int :=
  let start := (Decimal.write (m * Nat.pow 2 e.toNat / Nat.pow 2 (-e).toNat)).length
  shortestFrom m e (start + 345) start

def positional (digits : Nat) (scale : Int) : Text :=
  let whole := digits * Nat.pow 10 scale.toNat
  let places := (-scale).toNat
  let fraction := Decimal.write (whole % Nat.pow 10 places)
  Decimal.write (whole / Nat.pow 10 places) ++ '.' ::
    (List.replicate (places - fraction.length) '0' ++ fraction)

def render : Binary64 → Text
  | notANumber => "NaN".toList
  | infinite negative => (if negative then "-inf" else "inf").toList
  | finite negative m e =>
    let (digits, scale) := if m = 0 then (0, 0) else shortest m e
    (if negative then ['-'] else []) ++ positional digits scale

end Binary64

end ConnectString
