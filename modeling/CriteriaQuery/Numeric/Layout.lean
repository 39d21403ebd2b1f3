import CriteriaQuery.Numeric.Shortest

/-!
# Number text

How the digits of a floating-point number are laid out: positional notation in a
window of exponents, scientific notation outside of it. The two texts of this
library are records of one type; they differ in the window, in the sign of the
exponent and in the choice between two equally near decimals.
-/

namespace CriteriaQuery

/-- The decisions of a number text. -/
structure NumberLayout where
  leastPositional : Int
  greatestPositional : Int
  plusSign : Bool
  tie : TieRule

namespace NumberLayout

/-- The digits without trailing zeros; each dropped zero raises the exponent. -/
def trimZeros : Nat → DecimalDigits → DecimalDigits
  | 0, decimal => decimal
  | fuel + 1, decimal =>
      if decimal.digits % 10 = 0 then
        trimZeros fuel { digits := decimal.digits / 10, exponent := decimal.exponent + 1 }
      else decimal

/-- A sign of the exponent and its digits. -/
def exponentText (layout : NumberLayout) (exponent : Int) : String :=
  if exponent < 0 then "-" ++ Nat.repr exponent.natAbs
  else if layout.plusSign then "+" ++ Nat.repr exponent.natAbs
  else Nat.repr exponent.natAbs

/-- Lay out digits whose first one stands at the given power of ten. -/
def place (layout : NumberLayout) (digits : List Char) (exponent : Int) : String :=
  if layout.leastPositional ≤ exponent ∧ exponent ≤ layout.greatestPositional then
    if exponent < 0 then
      "0." ++ String.ofList (List.replicate (exponent.natAbs - 1) '0' ++ digits)
    else
      let whole := exponent.toNat + 1
      let padded := digits ++ List.replicate (whole - digits.length) '0'
      let fraction := padded.drop whole
      String.ofList (padded.take whole) ++ "." ++
        (if fraction.isEmpty then "0" else String.ofList fraction)
  else
    let mantissa :=
      match digits with
      | first :: second :: rest => String.ofList (first :: '.' :: second :: rest)
      | short => String.ofList short
    mantissa ++ "e" ++ layout.exponentText exponent

/-- The text of a finite number. -/
def finiteText (layout : NumberLayout) (number : Binary64) : String :=
  let sign := if number.isNegative then "-" else ""
  if number.isZero then sign ++ "0.0"
  else
    let decimal := trimZeros 20 (number.shortest layout.tie)
    let digits := Nat.toDigits 10 decimal.digits
    sign ++ layout.place digits (decimal.exponent + (Int.ofNat digits.length - 1))

end NumberLayout

end CriteriaQuery
