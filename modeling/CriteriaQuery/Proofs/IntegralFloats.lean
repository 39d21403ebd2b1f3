import Mathlib.Tactic.Positivity
import CriteriaQuery.Proofs.IntegerLists
import CriteriaQuery.Proofs.JsonTrees

/-!
# Floating-point numbers that are integers

A floating-point number that stands for an integer becomes the same decimal as the integer.  With
a negative exponent the significand is divisible by the power of two, so each step to a power of
ten halves it; with any other exponent there is room for doubling it.  Either way no power of ten
is left, and no digit is rounded.

So an exact number does not tell whether a filter was written with a decimal point or without.
-/

namespace CriteriaQuery

namespace Binary64

/-- The least positive number is two to minus this power. -/
def unitPower : Nat := 1074

/-- How many of the least positive numbers make one. -/
def unitsOfOne : Nat := 2 ^ unitPower

/-- How many of the least positive numbers a finite word stands for: its fraction bits, from the
second exponent on with one more bit in front of them, and doubled for each exponent above it. -/
def units (number : Binary64) : Int :=
  let magnitude : Int :=
    if number.exponentField = 0 then number.fractionField
    else (2 ^ 52 + number.fractionField) * 2 ^ (number.exponentField - 1)
  if number.isNegative then -magnitude else magnitude

/-- The number that a word stands for, if it stands for one. -/
def toRat? (number : Binary64) : Option Rat :=
  if number.exponentField = 2047 then none else some (number.units / unitsOfOne)

theorem unitsOfOne_pos : 0 < unitsOfOne :=
  Nat.pow_pos Nat.two_pos

/-- The power of two that multiplies the significand of a finite word in least positive numbers. -/
def shift (number : Binary64) : Nat :=
  max 1 number.exponentField - 1

theorem exponent_eq (number : Binary64) : number.exponent = number.shift - unitPower := by
  simp only [exponent, shift, unitPower, Int.ofNat_eq_natCast]
  omega

theorem units_eq (number : Binary64) :
    number.units =
      if number.isNegative then -(number.significand * 2 ^ number.shift : Int)
      else (number.significand * 2 ^ number.shift : Int) := by
  by_cases zero : number.exponentField = 0
  · simp [units, shift, significand, zero]
  · have positive : max 1 number.exponentField = number.exponentField := by omega
    simp [units, shift, significand, zero, positive]

theorem natAbs_units (number : Binary64) :
    number.units.natAbs = number.significand * 2 ^ number.shift := by
  rw [units_eq]
  split <;> simp [Int.natAbs_mul, Int.natAbs_pow]

variable {number : Binary64} {integer : Int}

theorem isNegative_of_units (nonzero : number.units ≠ 0) :
    number.isNegative = decide (number.units < 0) := by
  have magnitude : (0 : Int) ≤ number.significand * 2 ^ number.shift := by positivity
  rw [units_eq] at nonzero ⊢
  split at nonzero
  · next negative =>
    rw [negative, if_pos rfl, eq_comm, decide_eq_true_iff]
    omega
  · next positive =>
    rw [if_neg positive, Bool.eq_false_of_not_eq_true positive, eq_comm, decide_eq_false_iff_not]
    omega

theorem toRat?_eq_intCast_iff :
    number.toRat? = some (integer : Rat) ↔
      number.isFinite = true ∧ number.units = integer * unitsOfOne := by
  have field : number.exponentField < 2 ^ 11 := Nat.mod_lt _ (by decide)
  have finite : number.isFinite = true ↔ number.exponentField ≠ 2047 := by
    rw [isFinite, decide_eq_true_iff]
    omega
  have whole {one : Nat} (positive : 0 < one) :
      (number.units / one : Rat) = integer ↔ number.units = integer * one := by
    rw [div_eq_iff (Nat.cast_ne_zero.2 positive.ne')]
    exact_mod_cast Iff.rfl
  rw [toRat?, finite]
  by_cases allOnes : number.exponentField = 2047
  · rw [if_pos allOnes]
    exact iff_of_false nofun fun both => both.1 allOnes
  · rw [if_neg allOnes, Option.some_inj, whole unitsOfOne_pos, and_iff_right allOnes]

/-- An integer that is not zero has the sign of its word. -/
theorem isNegative_of_integral (integral : number.toRat? = some (integer : Rat))
    (nonzero : integer ≠ 0) : number.isNegative = decide (integer < 0) := by
  have whole := (toRat?_eq_intCast_iff.1 integral).2
  have one : (0 : Int) < unitsOfOne := Int.natCast_pos.2 unitsOfOne_pos
  have some : number.units ≠ 0 := whole ▸ mul_ne_zero nonzero one.ne'
  rw [isNegative_of_units some, whole, decide_eq_decide]
  constructor
  · exact fun below => neg_of_mul_neg_left below one.le
  · exact fun below => mul_neg_of_neg_of_pos below one

end Binary64

namespace Decimal

/-- Steps that find their powers of two in the coefficient only halve it. -/
theorem exchangeHalves_mul_two_pow (steps coefficient : Nat) (power : Int) :
    exchangeHalves steps (coefficient * 2 ^ steps) power = (coefficient, power + steps) := by
  induction steps generalizing power with
  | zero => simp [exchangeHalves]
  | succ steps ih =>
      have doubled : coefficient * 2 ^ (steps + 1) = coefficient * 2 ^ steps * 2 := by
        rw [Nat.pow_succ, Nat.mul_assoc]
      have even : coefficient * 2 ^ (steps + 1) % 2 = 0 := by omega
      have half : coefficient * 2 ^ (steps + 1) / 2 = coefficient * 2 ^ steps := by omega
      rw [exchangeHalves, if_pos even, half, ih]
      congr 1
      omega

/-- Steps that have room for all their powers of two only double the coefficient. -/
theorem exchangeDoublings?_of_lt {steps coefficient : Nat} (room : coefficient * 2 ^ steps < limit)
    (power : Int) :
    exchangeDoublings? steps coefficient power = some (coefficient * 2 ^ steps, power - steps) := by
  induction steps generalizing coefficient power with
  | zero => simp [exchangeDoublings?]
  | succ steps ih =>
      have doubled : coefficient * 2 ^ (steps + 1) = coefficient * 2 * 2 ^ steps := by
        rw [Nat.pow_succ, Nat.mul_comm (2 ^ steps), Nat.mul_assoc]
      have least : coefficient * 2 ≤ coefficient * 2 * 2 ^ steps :=
        Nat.le_mul_of_pos_right _ (Nat.two_pow_pos steps)
      have below : coefficient < Nat.pow 2 95 := by
        have whole : limit = 2 * Nat.pow 2 95 := by decide
        omega
      rw [doubled] at room ⊢
      rw [exchangeDoublings?, if_pos below, ih room]
      congr 2
      omega

theorem settle?_zero (negative : Bool) (coefficient : Nat) :
    settle? negative coefficient 0 = some { negative, coefficient, scale := 0 } :=
  rfl

variable {number : Binary64} {integer : Int}

/-- A number that is an integer of at most ninety-six bits becomes the decimal of this integer,
but for the sign of zero. -/
theorem ofBinary64?_of_integral (integral : number.toRat? = some (integer : Rat))
    (fits : integer.natAbs < limit) :
    ofBinary64? number = some
      { negative := number.isNegative, coefficient := integer.natAbs, scale := 0 } := by
  obtain ⟨finite, whole⟩ := Binary64.toRat?_eq_intCast_iff.1 integral
  have magnitude : number.significand * 2 ^ number.shift =
      integer.natAbs * Binary64.unitsOfOne := by
    rw [← Binary64.natAbs_units, whole, Int.natAbs_mul, Int.natAbs_natCast]
  have known : ¬(!number.isFinite) = true := by simp [finite]
  simp only [ofBinary64?, if_neg known, Binary64.exponent_eq]
  rw [Binary64.unitsOfOne] at magnitude
  generalize Binary64.unitPower = power at *
  by_cases below : number.shift < power
  · obtain ⟨steps, rfl⟩ := Nat.exists_eq_add_of_le (Nat.le_of_lt below)
    have divisible : number.significand = integer.natAbs * 2 ^ steps := by
      rw [Nat.pow_add, Nat.mul_comm (2 ^ number.shift), ← Nat.mul_assoc] at magnitude
      exact Nat.eq_of_mul_eq_mul_right (Nat.two_pow_pos _) magnitude
    have exponent : (number.shift : Int) - (number.shift + steps : Nat) = -steps := by omega
    rw [if_pos (by omega), exponent, Int.natAbs_neg, Int.natAbs_natCast, divisible,
      exchangeHalves_mul_two_pow, neg_add_cancel, settle?_zero]
  · obtain ⟨steps, total⟩ := Nat.exists_eq_add_of_le (Nat.le_of_not_lt below)
    have doubled : number.significand * 2 ^ steps = integer.natAbs := by
      rw [total, Nat.pow_add, Nat.mul_comm (2 ^ power), ← Nat.mul_assoc] at magnitude
      exact Nat.eq_of_mul_eq_mul_right (Nat.two_pow_pos _) magnitude
    have exponent : (number.shift : Int) - power = steps := by omega
    rw [if_neg (by omega), exponent, Int.toNat_natCast, exchangeDoublings?_of_lt (doubled ▸ fits),
      doubled, sub_self, Option.bind_some, settle?_zero]

end Decimal

namespace Value

open Wire

/-- An integer binds as its own exact number. -/
theorem encode_numeric_of_integral {float : Binary64} {integer : Int}
    (integral : float.toRat? = some (integer : Rat)) (fits : integer.natAbs < Decimal.limit) :
    (Value.float float).encode (.scalar .numeric) =
      encoded (numericBytes (Decimal.ofInt integer)) := by
  rw [encode, encodeFloat, Decimal.ofBinary64?_of_integral integral fits]
  by_cases zero : integer = 0
  · -- Both zeros are sent without a sign.
    subst zero
    rfl
  · rw [Binary64.isNegative_of_integral integral zero]
    rfl

/-- An integer and a floating-point number that stands for it bind to an exact number with the same
bytes, which are read as the integer.  So do the values of all texts that are read as one of the
two. -/
theorem encode_float_eq_encode_int {number : Int64} {float : Binary64}
    (integral : float.toRat? = some (number.toInt : Rat)) :
    ∃ bytes, (Value.float float).encode (.scalar .numeric) = .ok (some bytes) ∧
      (Value.int number).encode (.scalar .numeric) = .ok (some bytes) ∧
      Reader.integer? .numeric bytes = some number.toInt ∧
      ∀ text, Json.ofText? text = some (.int number.toInt) ∨
          Json.ofText? text = some (.float float) →
        (ofJsonText? text).map (encode (.scalar .numeric)) = some (.ok (some bytes)) := by
  have integerType : ScalarType.numeric.IsIntegral := by
    simp [ScalarType.IsIntegral]
  have fits : number.toInt.natAbs < Decimal.limit := by
    have low := number.le_toInt
    have high := number.toInt_lt
    have limit : 2 ^ 64 < Decimal.limit := by decide
    omega
  have admitted : ScalarType.numeric.admits number.toInt := rfl
  obtain ⟨bytes, written, -, read⟩ := encodeInt_reads integerType admitted
  have plain : (Value.int number).encode (.scalar .numeric) = .ok (some bytes) := written
  have pointed : (Value.float float).encode (.scalar .numeric) = .ok (some bytes) :=
    (encode_numeric_of_integral integral fits).trans plain
  refine ⟨bytes, pointed, plain, read, ?_⟩
  intro text spelled
  cases spelled with
  | inl whole =>
      rw [ofJsonText?, whole, Option.map_some, Option.map_some, ofJson_int, plain]
  | inr fraction =>
      rw [ofJsonText?, fraction, Option.map_some, Option.map_some, ofJson, pointed]

theorem encode_float_eq_encode_int_five :
    let five : Binary64 := { bits := 0x4014000000000000 }
    let bytes : Bytes := [0, 1, 0, 0, 0, 0, 0, 0, 0, 5]
    five.toRat? = some ((5 : Int64).toInt : Rat) ∧
      ∀ text ∈ ["5", "5.0", "5e0"],
        (ofJsonText? text).map (encode (.scalar .numeric)) = some (.ok (some bytes)) := by
  intro five bytes
  have integral : five.toRat? = some ((5 : Int64).toInt : Rat) := by decide +kernel
  obtain ⟨sent, -, plain, -, texts⟩ := encode_float_eq_encode_int integral
  have known : (Value.int 5).encode (.scalar .numeric) = .ok (some bytes) := by decide +kernel
  have same : sent = bytes := Option.some.inj (Except.ok.inj (plain.symm.trans known))
  have whole : Json.ofText? "5" = some (.int (5 : Int64).toInt) := by rfl
  have scientific : Json.ofText? "5e0" = some (.float five) := by rfl
  have pointed : Json.ofText? "5.0" = some (.float five) := by
    have tenth : Json.scale? (Binary64.ofInt 50) (-1) = some five := by
      rw [Json.scale?, if_pos (by decide), Json.shrink]
      rfl
    change ((Json.scale? (Binary64.ofInt 50) (-1)).map (Json.signed false)).map Json.float = _
    rw [tenth]
    rfl
  rw [← same]
  refine ⟨integral, ?_⟩
  intro text inside
  simp only [List.mem_cons, List.not_mem_nil, or_false] at inside
  obtain rfl | rfl | rfl := inside
  · exact texts _ (.inl whole)
  · exact texts _ (.inr pointed)
  · exact texts _ (.inr scientific)

end Value

end CriteriaQuery
