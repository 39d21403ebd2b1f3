import CriteriaQuery.Numeric.Binary64

/-!
# Rounding to a binary format

One function rounds an exact quotient to the nearest number of a binary format,
ties going to the even significand. Conversions of integers, products and
quotients with powers of ten, and the change between 64 and 32 bits all go
through it.
-/

namespace CriteriaQuery

/-- Round a quotient of natural numbers to the nearest integer, a tie to the even one. -/
def roundHalfEven (numerator denominator : Nat) : Nat :=
  let quotient := numerator / denominator
  let twice := 2 * (numerator % denominator)
  if twice < denominator then quotient
  else if denominator < twice then quotient + 1
  else if quotient % 2 = 0 then quotient
  else quotient + 1

/-- A binary interchange format: bits of the significand, exponent of the smallest
positive number, and the magnitude word of infinity. -/
structure BinaryFormat where
  precision : Nat
  leastExponent : Int
  infinity : Nat

namespace BinaryFormat

/-- The format of 64-bit words. -/
def double : BinaryFormat where
  precision := 53
  leastExponent := -1074
  infinity := 2047 * Nat.pow 2 52

/-- The format of 32-bit words. -/
def single : BinaryFormat where
  precision := 24
  leastExponent := -149
  infinity := 255 * Nat.pow 2 23

/-- The quotient of a ratio by a power of two, as a ratio. -/
def scaled (numerator denominator : Nat) (exponent : Int) : Nat × Nat :=
  if exponent < 0 then (numerator * Nat.pow 2 (-exponent).toNat, denominator)
  else (numerator, denominator * Nat.pow 2 exponent.toNat)

/-- The exponent at which a positive ratio has a significand of full precision, or
the least exponent of the format for a ratio too small for that. -/
def exponentOf (format : BinaryFormat) (numerator denominator : Nat) : Int :=
  let estimate : Int := Int.ofNat numerator.log2 - Int.ofNat denominator.log2 - format.precision + 1
  let quotient := scaled numerator denominator estimate
  let exponent :=
    if quotient.1 < quotient.2 * Nat.pow 2 (format.precision - 1) then estimate - 1 else estimate
  max format.leastExponent exponent

/-- The magnitude word of the number nearest to a ratio. A carry out of the significand
runs into the exponent bits, which is where it belongs. -/
def round (format : BinaryFormat) (numerator denominator : Nat) : Nat :=
  if numerator = 0 then 0
  else
    let exponent := format.exponentOf numerator denominator
    let quotient := scaled numerator denominator exponent
    let significand := roundHalfEven quotient.1 quotient.2
    min format.infinity
      ((exponent - format.leastExponent).toNat * Nat.pow 2 (format.precision - 1) + significand)

end BinaryFormat

namespace Binary64

/-- The number nearest to a signed ratio. -/
def ofRatio (negative : Bool) (numerator denominator : Nat) : Binary64 :=
  ofMagnitude negative (BinaryFormat.double.round numerator denominator)

/-- The number nearest to an integer. -/
def ofInt (number : Int) : Binary64 :=
  ofRatio (decide (number < 0)) number.natAbs 1

/-- The product of a finite number of positive sign with a power of ten that was itself
rounded to a number. -/
def timesPowerOfTen (number : Binary64) (power : Nat) : Binary64 :=
  let factor := (ofRatio false (Nat.pow 10 power) 1).ratio
  ofRatio false (number.ratio.1 * factor.1) (number.ratio.2 * factor.2)

/-- The quotient of a finite number of positive sign by a power of ten that was itself
rounded to a number. -/
def overPowerOfTen (number : Binary64) (power : Nat) : Binary64 :=
  let divisor := (ofRatio false (Nat.pow 10 power) 1).ratio
  ofRatio false (number.ratio.1 * divisor.2) (number.ratio.2 * divisor.1)

/-- The 32-bit word nearest to a number. A NaN stays one: it keeps its sign and the high
bits of its fraction and becomes quiet. -/
def toSingleWord (number : Binary64) : Nat :=
  let sign := if number.isNegative then Nat.pow 2 31 else 0
  if number.isNaN then
    sign + BinaryFormat.single.infinity + Nat.pow 2 22 +
      number.fractionField / Nat.pow 2 29 % Nat.pow 2 22
  else if number.isFinite then
    sign + BinaryFormat.single.round number.ratio.1 number.ratio.2
  else sign + BinaryFormat.single.infinity

/-- The number that a 32-bit word stands for, which 64 bits hold exactly. -/
def ofSingleWord (word : UInt32) : Binary64 :=
  let negative := decide (Nat.pow 2 31 ≤ word.toNat)
  let exponentField := word.toNat / Nat.pow 2 23 % Nat.pow 2 8
  let fraction := word.toNat % Nat.pow 2 23
  if exponentField = 255 then
    let payload := if fraction = 0 then 0 else Nat.pow 2 51 + fraction % Nat.pow 2 22 * Nat.pow 2 29
    ofMagnitude negative (BinaryFormat.double.infinity + payload)
  else
    let significand := if exponentField = 0 then fraction else Nat.pow 2 23 + fraction
    let quotient := BinaryFormat.scaled significand 1 (150 - Int.ofNat (max 1 exponentField))
    ofRatio negative quotient.1 quotient.2

end Binary64

end CriteriaQuery
