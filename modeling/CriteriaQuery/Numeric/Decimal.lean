import CriteriaQuery.Numeric.Binary64

/-!
# Decimals of ninety-six bits

A decimal is a signed coefficient below `2 ^ 96` and a scale, the number of its
fractional digits. An integer is its own decimal. A floating-point number becomes
one by trading its power of two for a power of ten, step by step, in the
ninety-six bits of the coefficient; digits beyond the precision of the number are
then rounded away, half upwards, and trailing zeros dropped.
-/

namespace CriteriaQuery

/-- The number `± coefficient * 10 ^ -scale`. -/
structure Decimal where
  negative : Bool
  coefficient : Nat
  scale : Nat
deriving DecidableEq, Repr

namespace Decimal

/-- The first coefficient that does not fit. -/
def limit : Nat := Nat.pow 2 96

/-- An integer as a decimal without fractional digits. -/
def ofInt (number : Int) : Decimal where
  negative := decide (number < 0)
  coefficient := number.natAbs
  scale := 0

/-- Exchange divisions by two for divisions by ten: each step halves an even
coefficient, or multiplies it by five for a later division by ten. Where that
does not fit, the step halves and loses a bit. -/
def exchangeHalves : Nat → Nat → Int → Nat × Int
  | 0, coefficient, power => (coefficient, power)
  | steps + 1, coefficient, power =>
      if coefficient % 2 = 0 then exchangeHalves steps (coefficient / 2) (power + 1)
      else if coefficient * 5 < limit then exchangeHalves steps (coefficient * 5) power
      else exchangeHalves steps (coefficient / 2) (power + 1)

/-- Exchange multiplications by two for multiplications by ten: each step doubles a
coefficient that has room, or divides it by five. It fails when more powers of ten are
left than the remaining steps can pay for. -/
def exchangeDoublings? : Nat → Nat → Int → Option (Nat × Int)
  | 0, coefficient, power => some (coefficient, power)
  | steps + 1, coefficient, power =>
      if coefficient < Nat.pow 2 95 then exchangeDoublings? steps (coefficient * 2) (power - 1)
      else if Int.ofNat (steps + 1) < power * 2 then none
      else exchangeDoublings? steps (coefficient / 5) power

/-- Multiply by the powers of ten that are left, as long as the coefficient has room. -/
def raise? : Nat → Nat → Option Nat
  | 0, coefficient => some coefficient
  | steps + 1, coefficient =>
      if coefficient * 10 < limit then raise? steps (coefficient * 10) else none

/-- A coefficient without its last digit, which rounds half upwards. -/
def roundedTenth (coefficient : Nat) : Nat :=
  if coefficient % 10 < 5 then coefficient / 10 else coefficient / 10 + 1

/-- Drop digits one by one, rounding each time. A coefficient whose last digit goes is
zero, whatever that digit was. -/
def dropDigits : Nat → Nat → Nat
  | 0, coefficient => coefficient
  | steps + 1, coefficient =>
      if coefficient / 10 = 0 then 0 else dropDigits steps (roundedTenth coefficient)

/-- Drop fractional digits until the coefficient is within the precision of a
floating-point number. -/
def fitPrecision : Nat → Nat → Nat × Nat
  | coefficient, 0 => (coefficient, 0)
  | coefficient, scale + 1 =>
      if Nat.pow 2 52 ≤ coefficient then fitPrecision (roundedTenth coefficient) scale
      else (coefficient, scale + 1)

/-- Drop fractional zeros at the end. -/
def trimZeros : Nat → Nat → Nat × Nat
  | coefficient, 0 => (coefficient, 0)
  | coefficient, scale + 1 =>
      if coefficient % 10 = 0 then trimZeros (coefficient / 10) scale
      else (coefficient, scale + 1)

/-- The most fractional digits a decimal keeps. -/
def maxScale : Nat := 28

/-- A coefficient times a power of ten, brought to a scale between zero and the
greatest one, to the precision of a floating-point number and without trailing zeros. -/
def settle? (negative : Bool) (coefficient : Nat) (power : Int) : Option Decimal :=
  (raise? power.toNat coefficient).map fun raised =>
    let scale := (-power).toNat
    let kept := dropDigits (scale - maxScale) raised
    let fitted := fitPrecision kept (min scale maxScale)
    let trimmed := trimZeros fitted.1 fitted.2
    { negative, coefficient := trimmed.1, scale := trimmed.2 }

/-- The decimal of a floating-point number; infinities, NaNs and numbers of too great a
magnitude have none. -/
def ofBinary64? (number : Binary64) : Option Decimal :=
  if !number.isFinite then none
  else
    let exponent := number.exponent
    if exponent < 0 then
      let halved := exchangeHalves exponent.natAbs number.significand exponent
      settle? number.isNegative halved.1 halved.2
    else
      (exchangeDoublings? exponent.toNat number.significand exponent).bind fun doubled =>
        settle? number.isNegative doubled.1 doubled.2

end Decimal

end CriteriaQuery
