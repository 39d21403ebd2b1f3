/-!
# Binary floating-point numbers

A 64-bit floating-point number is kept as its word: a sign bit, eleven exponent
bits and fifty-two fraction bits. Every finite word stands for an integer
significand times a power of two, and all arithmetic of this library on such
numbers is exact arithmetic on significands followed by one rounding.
-/

namespace CriteriaQuery

/-- A 64-bit floating-point number, held as its word. -/
structure Binary64 where
  bits : UInt64
deriving DecidableEq, Repr, Inhabited

namespace Binary64

/-- The sign bit. -/
def isNegative (number : Binary64) : Bool :=
  decide (Nat.pow 2 63 ≤ number.bits.toNat)

/-- The eleven exponent bits. -/
def exponentField (number : Binary64) : Nat :=
  number.bits.toNat / Nat.pow 2 52 % Nat.pow 2 11

/-- The fifty-two fraction bits. -/
def fractionField (number : Binary64) : Nat :=
  number.bits.toNat % Nat.pow 2 52

/-- Neither infinite nor a NaN. -/
def isFinite (number : Binary64) : Bool :=
  decide (number.exponentField < 2047)

/-- A word that stands for no number. -/
def isNaN (number : Binary64) : Bool :=
  decide (number.exponentField = 2047 ∧ number.fractionField ≠ 0)

/-- Either of the two zeros. -/
def isZero (number : Binary64) : Bool :=
  decide (number.exponentField = 0 ∧ number.fractionField = 0)

/-- The integer significand of a finite number, with the hidden bit. -/
def significand (number : Binary64) : Nat :=
  if number.exponentField = 0 then number.fractionField
  else Nat.pow 2 52 + number.fractionField

/-- The power of two that multiplies the significand of a finite number. -/
def exponent (number : Binary64) : Int :=
  Int.ofNat (max 1 number.exponentField) - 1075

/-- Equality of numbers: a NaN differs from every word, and the two zeros are equal. -/
def equal (left right : Binary64) : Bool :=
  !left.isNaN && !right.isNaN && (decide (left = right) || (left.isZero && right.isZero))

/-- The word of a sign and a magnitude word below `2 ^ 63`. -/
def ofMagnitude (negative : Bool) (magnitude : Nat) : Binary64 where
  bits := UInt64.ofNat (magnitude + if negative then Nat.pow 2 63 else 0)

/-- The zero of a sign. -/
def zero (negative : Bool) : Binary64 :=
  ofMagnitude negative 0

/-- Change the sign. -/
def negate (number : Binary64) : Binary64 where
  bits := number.bits ^^^ 0x8000000000000000

/-- The magnitude of a finite number as a quotient of two natural numbers. -/
def ratio (number : Binary64) : Nat × Nat :=
  if number.exponent < 0 then (number.significand, Nat.pow 2 (-number.exponent).toNat)
  else (number.significand * Nat.pow 2 number.exponent.toNat, 1)

end Binary64

end CriteriaQuery
