import CriteriaQuery.Bytes
import CriteriaQuery.Numeric.Decimal
import CriteriaQuery.Numeric.Rounding
import CriteriaQuery.Value.Json
import CriteriaQuery.Wire.SqlType

/-!
# Binary form of values

The bytes that bind a value to a parameter of a type. A value fits the types of
its own kind only: integers narrow with a range check and turn into exact or
floating-point numbers, floating-point numbers turn into exact ones, and no text
ever turns into a number. A list fits an array type if its items fit the member
type, and null fits every type.

A decimal is sent as groups of four decimal digits, aligned at the decimal point,
after a header of four fields: the number of groups, the weight of the first group
as a power of ten thousand, the sign, and the number of fractional digits. Zero is
sent as a header of zeros.
-/

namespace CriteriaQuery

namespace Wire

/-- The digits of a number in base ten thousand, most significant first; zero has none. -/
def digitGroups (number : Nat) : List Nat :=
  if number = 0 then [] else digitGroups (number / 10000) ++ [number % 10000]
termination_by number
decreasing_by omega

/-- The coefficient of a decimal with its fractional digits filled up to whole groups. -/
def alignedCoefficient (decimal : Decimal) : Nat :=
  decimal.coefficient * Nat.pow 10 ((4 - decimal.scale % 4) % 4)

/-- The number of groups that hold the fractional digits. -/
def fractionGroups (decimal : Decimal) : Nat :=
  (decimal.scale + 3) / 4

/-- A list without its zeros at the end. -/
def dropTrailingZeros (groups : List Nat) : List Nat :=
  (groups.reverse.dropWhile (· == 0)).reverse

/-- The groups that are sent: those before the decimal point all, and those after it
without zeros at the end. -/
def sentGroups (groups : List Nat) (weight : Int) : List Nat :=
  if weight < 0 then groups
  else
    let whole := weight.toNat + 1
    groups.take whole ++ dropTrailingZeros (groups.drop whole)

/-- The binary form of a decimal. -/
def numericBytes (decimal : Decimal) : Bytes :=
  if decimal.coefficient = 0 then bigEndian 8 0
  else
    let groups := digitGroups (alignedCoefficient decimal)
    let weight := Int.ofNat groups.length - Int.ofNat (fractionGroups decimal) - 1
    let sent := sentGroups groups weight
    bigEndian 2 sent.length ++ twosComplement 2 weight ++
      bigEndian 2 (if decimal.negative then 0x4000 else 0) ++ bigEndian 2 decimal.scale ++
      sent.flatMap (bigEndian 2)

/-- Why a value has no binary form for a type. -/
inductive EncodingError where
  | wrongType
  | integerRange
  | decimalRange
  | listForOtherType (typeName : String)
deriving DecidableEq, Repr

/-- The text of an encoding error that has one of its own. -/
def EncodingError.message : EncodingError → String
  | .wrongType => "the value does not fit the type"
  | .integerRange => "the integer is out of range"
  | .decimalRange => "the number has no decimal"
  | .listForOtherType typeName => "cannot bind a list to non-array type " ++ typeName

/-- The bytes of a value; null has none. -/
abbrev Encoded := Except EncodingError (Option Bytes)

/-- The bytes of a value that is not null. -/
def encoded (bytes : Bytes) : Encoded :=
  .ok (some bytes)

/-- The types of text: five built-in ones, and four of extensions that go by their name,
three of which put a version byte in front. -/
def textPrefix? : SqlType → Option Bytes
  | .scalar .text => some []
  | .scalar .varchar => some []
  | .scalar .bpchar => some []
  | .scalar .name => some []
  | .scalar .unknown => some []
  | other =>
      if other.name = "citext" then some []
      else if other.name ∈ ["ltree", "lquery", "ltxtquery"] then some [1]
      else none

/-- An integer for a type of numbers. -/
def encodeInt (number : Int64) : SqlType → Encoded
  | .scalar .int2 =>
      if -0x8000 ≤ number.toInt ∧ number.toInt < 0x8000 then
        encoded (twosComplement 2 number.toInt)
      else .error .integerRange
  | .scalar .int4 =>
      if -0x80000000 ≤ number.toInt ∧ number.toInt < 0x80000000 then
        encoded (twosComplement 4 number.toInt)
      else .error .integerRange
  | .scalar .int8 => encoded (twosComplement 8 number.toInt)
  | .scalar .float8 => encoded (bigEndian 8 (Binary64.ofInt number.toInt).bits.toNat)
  | .scalar .numeric => encoded (numericBytes (Decimal.ofInt number.toInt))
  | _ => .error .wrongType

/-- A floating-point number for a type of numbers. -/
def encodeFloat (number : Binary64) : SqlType → Encoded
  | .scalar .float4 => encoded (bigEndian 4 number.toSingleWord)
  | .scalar .float8 => encoded (bigEndian 8 number.bits.toNat)
  | .scalar .numeric =>
      match Decimal.ofBinary64? number with
      | some decimal => encoded (numericBytes decimal)
      | none => .error .decimalRange
  | _ => .error .wrongType

/-- A text for a type of texts. -/
def encodeText (text : String) (type : SqlType) : Encoded :=
  match textPrefix? type with
  | some versionByte => encoded (versionByte ++ utf8 text)
  | none => .error .wrongType

/-- JSON for one of the two JSON types; the binary one has a version byte. -/
def encodeJson (document : Json) : SqlType → Encoded
  | .scalar .json => encoded (utf8 document.compact)
  | .scalar .jsonb => encoded (1 :: utf8 document.compact)
  | _ => .error .wrongType

/-- An item of an array with its length in front; a null has the length minus one. -/
def itemBytes : Option Bytes → Bytes
  | none => twosComplement 4 (-1)
  | some bytes => bigEndian 4 bytes.length ++ bytes

/-- An array of one dimension: the number of dimensions, whether there is a null, the
member type, the number of items and the index of the first, then the items. -/
def arrayBytes (member : SqlType) (firstIndex : Nat) (items : List (Option Bytes)) : Bytes :=
  bigEndian 4 1 ++ bigEndian 4 (if items.any Option.isNone then 1 else 0) ++
    bigEndian 4 member.oid ++ bigEndian 4 items.length ++ bigEndian 4 firstIndex ++
    items.flatMap itemBytes

end Wire

namespace Value

open Wire

mutual

/-- The bytes of a value for a type. -/
def encode (type : SqlType) : Value → Encoded
  | .null => .ok none
  | .bool flag =>
      if type = .scalar .bool then encoded [if flag then 1 else 0] else .error .wrongType
  | .int number => encodeInt number type
  | .float number => encodeFloat number type
  | .text content => encodeText content type
  | .uuid id =>
      if type = .scalar .uuid then encoded (bigEndian 16 id.bits.toNat) else .error .wrongType
  | .timestamp instant =>
      if type = .scalar .timestamp ∨ type = .scalar .timestamptz then
        encoded (twosComplement 8 instant.microseconds)
      else .error .wrongType
  | .json document => encodeJson document type
  | .list items =>
      match type with
      | .array _ _ firstIndex member =>
          match encodeItems member items with
          | .ok encodings => encoded (arrayBytes member firstIndex encodings)
          | .error cause => .error cause
      | other => .error (.listForOtherType other.name)

/-- The bytes of list items for the member type, up to the first that does not fit. -/
def encodeItems (member : SqlType) : List Value → Except EncodingError (List (Option Bytes))
  | [] => .ok []
  | item :: rest =>
      match encode member item with
      | .error cause => .error cause
      | .ok encoding =>
          match encodeItems member rest with
          | .error cause => .error cause
          | .ok encodings => .ok (encoding :: encodings)

end

end Value

end CriteriaQuery
