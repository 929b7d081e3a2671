import DocQuery.Binary64.Basic

/-!
Decimal forms of binary64 numbers.

The written form has the fewest digits that read back as the number, and of those the nearest.
A written number is read as its first digits, scaled once by a power of ten.
-/

namespace DocQuery

/-- The decimal `digits × 10 ^ exponent`. -/
structure Decimal where
  digits : Nat
  exponent : Int
deriving DecidableEq, Repr

/-- A decimal as a numerator and a denominator. -/
def Decimal.fraction (decimal : Decimal) : Nat × Nat :=
  if 0 ≤ decimal.exponent then (decimal.digits * Nat.pow 10 decimal.exponent.toNat, 1)
  else (decimal.digits, Nat.pow 10 (-decimal.exponent).toNat)

namespace Binary64

/-- The reals that round to a positive number, as quarter units: the ends and whether they round
to it too. Below a power of two the numbers lie twice as dense. -/
structure RoundingInterval where
  lower : Nat
  upper : Nat
  closed : Bool

def roundingInterval (x : Binary64) : RoundingInterval :=
  let (significand, scale) := x.significandAndScale
  let below := if significand = exponentBit ∧ 0 < scale then 1 else 2
  { lower := (4 * significand - below) * Nat.pow 2 scale
    upper := (4 * significand + 2) * Nat.pow 2 scale
    closed := significand % 2 = 0 }

/-- Whether a decimal lies in an interval of quarter units. -/
def RoundingInterval.has (interval : RoundingInterval) (decimal : Decimal) : Bool :=
  let (numerator, denominator) := decimal.fraction
  let quarters := numerator * (4 * one)
  let lower := interval.lower * denominator
  let upper := interval.upper * denominator
  if interval.closed then decide (lower ≤ quarters ∧ quarters ≤ upper)
  else decide (lower < quarters ∧ quarters < upper)

/-- The number's neighbours on the grid of multiples of `10 ^ exponent`, the nearer first, the
even one first in a tie. -/
def gridNeighbours (x : Binary64) (exponent : Int) : List Nat :=
  let (gridNumerator, gridDenominator) := Decimal.fraction ⟨1, exponent⟩
  let numerator := x.magnitudeUnits * gridDenominator
  let denominator := one * gridNumerator
  let below := numerator / denominator
  if divideToEven numerator denominator = below then [below, below + 1] else [below + 1, below]

/-- The least exponent at which the number lies below `10 ^ exponent`, searched upwards. -/
def decimalOrder (x : Binary64) (start : Int) : Nat → Int
  | 0 => start
  | steps + 1 =>
    let (numerator, denominator) := Decimal.fraction ⟨1, start⟩
    if x.magnitudeUnits * denominator < numerator * one then start
    else decimalOrder x (start + 1) steps

/-- The shortest decimal that reads back as the magnitude of a finite number. -/
def shortest (x : Binary64) : Decimal :=
  if x.magnitudeUnits = 0 then ⟨0, 0⟩
  else
    let guess : Int := (((x.magnitudeUnits.log2 : Int) - 1074) * 30103).fdiv 100000 - 1
    let order := decimalOrder x guess 4
    let interval := x.roundingInterval
    let onGrid (exponent : Int) : Option Decimal :=
      ((gridNeighbours x exponent).map (Decimal.mk · exponent)).find? interval.has
    ((List.range 17).findSome? fun (more : Nat) => onGrid (order - 1 - more)).getD ⟨x.magnitudeUnits, 0⟩

/-- How a finite number is written. -/
structure DecimalStyle where
  /-- The least and the greatest power of ten of the leading digit in positional notation. -/
  leastPositional : Int
  greatestPositional : Int
  /-- What stands between the digits and a positive or a negative exponent. -/
  positiveExponent : String
  negativeExponent : String

/-- Documents write exponents from `1e+16` and to `1e-6`, and every other number with a point. -/
def documentStyle : DecimalStyle := ⟨-5, 15, "e+", "e-"⟩

def dropTrailingZeros (digits : List Char) : List Char :=
  (digits.reverse.dropWhile (· == '0')).reverse

/-- The text of a finite number; the sign of zero is kept. -/
def text (style : DecimalStyle) (x : Binary64) : String :=
  let decimal := x.shortest
  let allDigits := Nat.toDigits 10 decimal.digits
  let digits := dropTrailingZeros allDigits
  let lead : Int := allDigits.length - 1 + decimal.exponent
  let sign := if x.isNegative then "-" else ""
  let body : String :=
    if decimal.digits = 0 then "0.0"
    else if lead < style.leastPositional ∨ style.greatestPositional < lead then
      let mantissa := match digits with
        | first :: second :: rest => String.ofList (first :: '.' :: second :: rest)
        | short => String.ofList short
      if lead < 0 then s!"{mantissa}{style.negativeExponent}{(-lead).toNat}"
      else s!"{mantissa}{style.positiveExponent}{lead.toNat}"
    else if lead < 0 then
      "0." ++ String.ofList (List.replicate ((-lead).toNat - 1) '0' ++ digits)
    else
      let whole := lead.toNat + 1
      let padded := digits ++ List.replicate (whole - digits.length) '0'
      let fraction := padded.drop whole
      String.ofList (padded.take whole) ++ "." ++
        (if fraction.isEmpty then "0" else String.ofList fraction)
  sign ++ body

/-- Scales by a power of ten in steps of at most 308 decades, each rounded. None above the range. -/
def scaleByTens (x : Binary64) : Nat → Int → Option Binary64
  | 0, _ => some x
  | steps + 1, exponent =>
    if exponent.natAbs ≤ 308 then
      let power := ofInt (Nat.pow 10 exponent.natAbs)
      let scaled := if 0 ≤ exponent then x.mul power else x.div power
      if scaled.isFinite then some scaled else none
    else if x.magnitudeUnits = 0 then some x
    else if 0 ≤ exponent then none
    else scaleByTens (x.div (ofInt (Nat.pow 10 308))) steps (exponent + 308)

/-- The number that a decimal is read as: its digits rounded, then scaled. After three steps down
every number has reached zero. -/
def ofDecimal (negative : Bool) (decimal : Decimal) : Option Binary64 :=
  let scaled := scaleByTens (ofInt decimal.digits) 4 decimal.exponent
  if negative then scaled.map neg else scaled

end Binary64
end DocQuery
