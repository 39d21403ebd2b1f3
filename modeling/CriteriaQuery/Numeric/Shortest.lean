import CriteriaQuery.Numeric.Binary64

/-!
# Fewest digits that read back

Every finite positive number owns an interval of reals that round to it. The
text of a number uses a decimal of that interval with as few digits as possible,
and of those the one nearest to the number.

The search runs over the decimal grids `10 ^ k`, from coarse to fine, and asks on
each grid only the two neighbours of the number: if any point of a grid lies in
the interval, one of these two does. All comparisons are exact.
-/

namespace CriteriaQuery

/-- A decimal `digits * 10 ^ exponent`. -/
structure DecimalDigits where
  digits : Nat
  exponent : Int
deriving DecidableEq, Repr

/-- Which of two equally near decimals is taken. -/
inductive TieRule where
  | toEven
  | upward
deriving DecidableEq, Repr

namespace Binary64

/-- The reals that round to a positive finite number, in units of a quarter of its
last place: the number itself, the two ends, and whether the ends belong to it. -/
structure Neighbourhood where
  value : Nat
  lower : Nat
  upper : Nat
  exponent : Int
  closed : Bool

/-- The neighbourhood of a positive finite number. Below a power of two the spacing
is halved, and ends round to a number with an even significand. -/
def neighbourhood (number : Binary64) : Neighbourhood where
  value := 4 * number.significand
  lower :=
    if number.fractionField = 0 ∧ 1 < number.exponentField then 4 * number.significand - 1
    else 4 * number.significand - 2
  upper := 4 * number.significand + 2
  exponent := number.exponent - 2
  closed := number.significand % 2 = 0

namespace Neighbourhood

/-- The neighbourhood in units in which both it and the grid `10 ^ k` are whole:
value, lower end, upper end and grid step. -/
def onGrid (interval : Neighbourhood) (power : Int) : Nat × Nat × Nat × Nat :=
  let binary := Nat.pow 2 interval.exponent.toNat
  let decimal := Nat.pow 10 (-power).toNat
  let scale := binary * decimal
  (interval.value * scale, interval.lower * scale, interval.upper * scale,
    Nat.pow 10 power.toNat * Nat.pow 2 (-interval.exponent).toNat)

/-- The point of the grid `10 ^ power` that lies in the interval and is nearest to the
number, if the grid has one. -/
def pointOn? (interval : Neighbourhood) (tie : TieRule) (power : Int) : Option Nat :=
  let (value, lower, upper, step) := interval.onGrid power
  let below := value / step
  let inside := fun point : Nat =>
    if interval.closed then decide (lower ≤ point * step ∧ point * step ≤ upper)
    else decide (lower < point * step ∧ point * step < upper)
  let twice := 2 * (value % step)
  let lowerNearer :=
    twice < step ∨ (twice = step ∧ tie = .toEven ∧ below % 2 = 0)
  if inside below && (!inside (below + 1) || decide lowerNearer) then some below
  else if inside (below + 1) then some (below + 1)
  else none

/-- Search the grids from `10 ^ power` downwards. -/
def search (interval : Neighbourhood) (tie : TieRule) : Nat → Int → DecimalDigits
  | 0, power =>
      let (value, _, _, step) := interval.onGrid power
      { digits := value / step, exponent := power }
  | fuel + 1, power =>
      match interval.pointOn? tie power with
      | some digits => { digits, exponent := power }
      | none => search interval tie fuel (power - 1)

end Neighbourhood

/-- A power of ten above a positive finite number, and at most two powers above it. -/
def leadingPower (number : Binary64) : Int :=
  (Int.ofNat number.significand.log2 + number.exponent + 1) * 1233 / 4096 + 1

/-- The nearest of the shortest decimals that round to a positive finite number.
Seventeen digits always suffice, and the search starts at most three grids above the
first digit. -/
def shortest (number : Binary64) (tie : TieRule) : DecimalDigits :=
  number.neighbourhood.search tie 21 number.leadingPower

end Binary64

end CriteriaQuery
