import CriteriaQuery.Json.Basic
import CriteriaQuery.Json.Document
import CriteriaQuery.Numeric.Rounding

/-!
# Reading JSON

The value that a JSON text stands for. Reading fails on ill-formed text, on
numbers beyond the floating-point range, on escapes that are half a character,
and on arrays and objects that nest too deeply.

An integer that fits 64 bits, signed or unsigned, stays an integer; minus zero
and every other number become floating-point. Of those the first digits that fit
64 bits count, scaled by the remaining power of ten in floating-point arithmetic.
-/

namespace CriteriaQuery.Json

/-- Read digits as long as the number they write fits 64 bits; the second part is the
number of digits left over. -/
def significantDigits : Nat → List Nat → Nat × Nat
  | significand, [] => (significand, 0)
  | significand, digit :: rest =>
      if significand * 10 + digit < Nat.pow 2 64 then
        significantDigits (significand * 10 + digit) rest
      else (significand, rest.length + 1)

/-- The number that decimal digits write. -/
def digitsValue (digits : List Nat) : Nat :=
  digits.foldl (fun value digit => value * 10 + digit) 0

/-- Divide by a power of ten, at most `10 ^ 308` at a time. -/
def shrink (number : Binary64) (power : Nat) : Binary64 :=
  if power ≤ 308 then number.overPowerOfTen power
  else if number.isZero then number
  else shrink (number.overPowerOfTen 308) (power - 308)
termination_by power

/-- Multiply by a power of ten; none if the product is out of range. -/
def scale? (number : Binary64) (power : Int) : Option Binary64 :=
  if power < 0 then some (shrink number power.natAbs)
  else if power ≤ 308 then
    let product := number.timesPowerOfTen power.toNat
    if product.isFinite then some product else none
  else if number.isZero then some number
  else none

/-- Give a number the sign of its literal. -/
def signed (negative : Bool) (number : Binary64) : Binary64 :=
  if negative then number.negate else number

namespace NumberLiteral

/-- The integer a literal without point and exponent writes, if it fits 64 bits; minus
zero is not an integer. -/
def integer? (literal : NumberLiteral) : Option Int :=
  if literal.fraction.isEmpty ∧ literal.exponent.isNone then
    let value := digitsValue literal.whole
    if literal.negative then
      if 0 < value ∧ value ≤ Nat.pow 2 63 then some (-Int.ofNat value) else none
    else if value < Nat.pow 2 64 then some (Int.ofNat value)
    else none
  else none

/-- The floating-point number a literal writes. An exponent beyond 32 bits is out of
range unless it makes the number zero. -/
def float? (literal : NumberLiteral) : Option Binary64 :=
  let (whole, dropped) := significantDigits 0 literal.whole
  let (significand, unread) := significantDigits whole literal.fraction
  let power := Int.ofNat dropped - Int.ofNat (literal.fraction.length - unread)
  let scaled :=
    match literal.exponent with
    | none => scale? (Binary64.ofInt (Int.ofNat significand)) power
    | some (negative, digits) =>
        let exponent := digitsValue digits
        if Nat.pow 2 31 ≤ exponent then
          if negative ∨ significand = 0 then some (Binary64.zero false) else none
        else
          scale? (Binary64.ofInt (Int.ofNat significand))
            (if negative then power - Int.ofNat exponent else power + Int.ofNat exponent)
  scaled.map (signed literal.negative)

/-- The number a literal writes. -/
def toJson? (literal : NumberLiteral) : Option Json :=
  match literal.integer? with
  | some number => some (.int number)
  | none => literal.float?.map .float

end NumberLiteral

/-- The first half of a character beyond 16 bits. -/
def isHighSurrogate (unit : Nat) : Bool :=
  decide (0xd800 ≤ unit ∧ unit < 0xdc00)

/-- The second half of a character beyond 16 bits. -/
def isLowSurrogate (unit : Nat) : Bool :=
  decide (0xdc00 ≤ unit ∧ unit < 0xe000)

/-- The characters of a string, with the first half of a character that is still open.
Two halves must follow one another directly. -/
def characters? : Option Nat → List StringPiece → Option (List Char)
  | none, [] => some []
  | some _, [] => none
  | none, .char char :: rest => (characters? none rest).map (char :: ·)
  | some _, .char _ :: _ => none
  | none, .unit unit :: rest =>
      if isHighSurrogate unit then characters? (some unit) rest
      else if isLowSurrogate unit then none
      else (characters? none rest).map (Char.ofNat unit :: ·)
  | some high, .unit unit :: rest =>
      if isLowSurrogate unit then
        (characters? none rest).map
          (Char.ofNat (0x10000 + (high - 0xd800) * 0x400 + (unit - 0xdc00)) :: ·)
      else none

/-- The text of a string. -/
def stringText? (pieces : List StringPiece) : Option String :=
  (characters? none pieces).map String.ofList

namespace Document

mutual

/-- The value of a document whose arrays and objects nest at most to a depth. -/
def toJson? (depth : Nat) : Document → Option Json
  | .null => some .null
  | .bool flag => some (.bool flag)
  | .number literal => literal.toJson?
  | .string pieces => (stringText? pieces).map .string
  | .array items =>
      match depth with
      | 0 => none
      | inner + 1 => (itemsToJson? inner items).map .array
  | .object fields =>
      match depth with
      | 0 => none
      | inner + 1 => (fieldsToJson? inner fields).map ofFields

/-- The values of array items. -/
def itemsToJson? (depth : Nat) : List Document → Option (List Json)
  | [] => some []
  | item :: rest => do
      let value ← toJson? depth item
      let values ← itemsToJson? depth rest
      return value :: values

/-- The values of object fields, in the order of the text. -/
def fieldsToJson? (depth : Nat) :
    List (List StringPiece × Document) → Option (List (String × Json))
  | [] => some []
  | (pieces, document) :: rest => do
      let key ← stringText? pieces
      let value ← toJson? depth document
      let fields ← fieldsToJson? depth rest
      return (key, value) :: fields

end

/-- The text of a string. -/
def text? : Document → Option String
  | .string pieces => stringText? pieces
  | _ => none

/-- The texts of an array of strings. -/
def texts? : Document → Option (List String)
  | .array items => items.mapM text?
  | _ => none

/-- A signed 64-bit integer written as one. -/
def int64? : Document → Option Int64
  | .number literal =>
      match literal.integer? with
      | some integer =>
          if -0x8000000000000000 ≤ integer ∧ integer < 0x8000000000000000 then
            some (Int64.ofInt integer)
          else none
      | none => none
  | _ => none

/-- A signed 64-bit integer, or null for none. -/
def optionalInt64? : Document → Option (Option Int64)
  | .null => some none
  | document => document.int64?.map some

end Document

/-- The deepest nesting of arrays and objects that is read. -/
def maxDepth : Nat := 127

/-- Read a JSON text whose arrays and objects nest at most to a depth. -/
def ofTextWithin? (depth : Nat) (text : String) : Option Json :=
  (Document.ofText? text).bind (Document.toJson? depth)

/-- Read a JSON text. -/
def ofText? (text : String) : Option Json :=
  ofTextWithin? maxDepth text

end CriteriaQuery.Json
