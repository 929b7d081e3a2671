/-!
Numbers of the IEEE 754 format binary64, held as their 64 bits.

A number that is not NaN is a whole multiple of `2 ^ -1074`; `units` is that multiple, so order and
remainder are those of the integers. Rounding goes to the nearest number, ties to the even one.
-/

namespace DocQuery

/-- A number in the format binary64. -/
structure Binary64 where
  bits : UInt64
deriving DecidableEq, Inhabited, Repr

namespace Binary64

def ofBits (bits : Nat) : Binary64 := ⟨UInt64.ofNat bits⟩

/-- The bit of the sign. -/
def signBit : Nat := 0x8000000000000000

/-- All bits but the sign. -/
def magnitudeBits (x : Binary64) : Nat := x.bits.toNat % signBit

def isNegative (x : Binary64) : Bool := signBit ≤ x.bits.toNat

/-- The lowest bit of the exponent, which stands above 52 bits of fraction. -/
def exponentBit : Nat := 0x10000000000000

/-- The magnitude bits of infinity. -/
def infinityBits : Nat := 0x7ff * exponentBit

def isNaN (x : Binary64) : Bool := infinityBits < x.magnitudeBits

def isFinite (x : Binary64) : Bool := x.magnitudeBits < infinityBits

def nan : Binary64 := ofBits 0x7ff8000000000000

def zero : Binary64 := ofBits 0

/-- The significand of a magnitude and the power of two, above `2 ^ -1074`, that scales it. -/
def significandAndScale (x : Binary64) : Nat × Nat :=
  let exponent := x.magnitudeBits / exponentBit
  let fraction := x.magnitudeBits % exponentBit
  if exponent = 0 then (fraction, 0) else (exponentBit + fraction, exponent - 1)

/-- The magnitude as a multiple of `2 ^ -1074`. Infinity lies above every finite number. -/
def magnitudeUnits (x : Binary64) : Nat :=
  let (significand, scale) := x.significandAndScale
  significand * Nat.pow 2 scale

/-- The number as a multiple of `2 ^ -1074`. -/
def units (x : Binary64) : Int :=
  if x.isNegative then -(x.magnitudeUnits : Int) else x.magnitudeUnits

/-- The multiples of `2 ^ -1074` that make one. -/
def one : Nat := Nat.pow 2 1074

/-- The quotient of two natural numbers, rounded to the nearest one, a tie to the even one. -/
def divideToEven (numerator denominator : Nat) : Nat :=
  let quotient := numerator / denominator
  let twice := 2 * (numerator % denominator)
  if denominator < twice ∨ (denominator = twice ∧ quotient % 2 = 1) then quotient + 1 else quotient

/-- The number nearest to a multiple of `2 ^ -1074`; infinity if that is too large. A significand
that rounds up to the next power of two carries into the exponent. -/
def ofMagnitude (negative : Bool) (magnitude : Nat) : Binary64 :=
  let scale := magnitude.log2 - 52
  let rounded := scale * exponentBit + divideToEven magnitude (Nat.pow 2 scale)
  ofBits ((if negative then signBit else 0) + min rounded infinityBits)

/-- The number nearest to an integer. -/
def ofInt (i : Int) : Binary64 := ofMagnitude (i < 0) (i.natAbs * one)

def toFloat (x : Binary64) : Float := Float.ofBits x.bits

def ofFloat (x : Float) : Binary64 := ⟨x.toBits⟩

def add (x y : Binary64) : Binary64 := ofFloat (x.toFloat + y.toFloat)

def sub (x y : Binary64) : Binary64 := ofFloat (x.toFloat - y.toFloat)

def mul (x y : Binary64) : Binary64 := ofFloat (x.toFloat * y.toFloat)

def div (x y : Binary64) : Binary64 := ofFloat (x.toFloat / y.toFloat)

def neg (x : Binary64) : Binary64 := ⟨x.bits ^^^ 0x8000000000000000⟩

/-- The remainder of the division that truncates towards zero. It is exact and has the sign of
the dividend, a zero too. -/
def rem (x y : Binary64) : Binary64 :=
  if x.isNaN || y.isNaN || !x.isFinite || y.magnitudeUnits == 0 then nan
  else if !y.isFinite then x
  else ofMagnitude x.isNegative (x.magnitudeUnits % y.magnitudeUnits)

/-- The order of two numbers; none if one of them is NaN. The two zeros are equal. -/
def compare? (x y : Binary64) : Option Ordering :=
  if x.isNaN || y.isNaN then none else some (compare x.units y.units)

/-- Equality of numbers: NaN differs from itself, and the two zeros are equal. -/
def equals (x y : Binary64) : Bool := x.compare? y == some .eq

end Binary64
end DocQuery
