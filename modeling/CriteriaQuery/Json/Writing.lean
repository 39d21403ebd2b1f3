import CriteriaQuery.Json.Basic
import CriteriaQuery.Numeric.Layout
import CriteriaQuery.Text.Quoted

/-!
# JSON text

The compact text of a JSON value. Only the quote, the backslash and the controls
below the space are escaped in strings. A floating-point number always shows a
fraction or an exponent, so it reads back as one; infinities and NaNs, which JSON
cannot write, become null.
-/

namespace CriteriaQuery.Json

/-- Numbers are positional from `0.00001` to below `10 ^ 16`, an exponent carries its
sign, and of two equally near decimals the one with the even last digit is written. -/
def numberLayout : NumberLayout where
  leastPositional := -5
  greatestPositional := 15
  plusSign := true
  tie := .toEven

/-- The text of a floating-point number. -/
def floatText (number : Binary64) : String :=
  if number.isFinite then numberLayout.finiteText number else "null"

/-- The text of an integer. -/
def intText (number : Int) : String :=
  if number < 0 then "-" ++ Nat.repr number.natAbs else Nat.repr number.natAbs

/-- A character inside a string. -/
def escapedChar (char : Char) : List Char :=
  match char with
  | '"' => ['\\', '"']
  | '\\' => ['\\', '\\']
  | '\x08' => ['\\', 'b']
  | '\x0c' => ['\\', 'f']
  | '\n' => ['\\', 'n']
  | '\r' => ['\\', 'r']
  | '\t' => ['\\', 't']
  | other =>
      if other.toNat < 0x20 then ['\\', 'u'] ++ Text.hexDigits 4 other.toNat else [other]

/-- The characters of a string with its quotes. -/
def writeString (text : String) : List Char :=
  '"' :: text.toList.flatMap escapedChar ++ ['"']

mutual

/-- The characters of a value. -/
def write : Json → List Char
  | .null => ['n', 'u', 'l', 'l']
  | .bool true => ['t', 'r', 'u', 'e']
  | .bool false => ['f', 'a', 'l', 's', 'e']
  | .int number => (intText number).toList
  | .float number => (floatText number).toList
  | .string text => writeString text
  | .array items => '[' :: writeItems items ++ [']']
  | .object fields => '\x7b' :: writeFields fields ++ ['\x7d']

/-- The characters of array items, with commas between them. -/
def writeItems : List Json → List Char
  | [] => []
  | [item] => write item
  | item :: next :: rest => write item ++ ',' :: writeItems (next :: rest)

/-- The characters of object fields, with commas between them. -/
def writeFields : List (String × Json) → List Char
  | [] => []
  | [(key, value)] => writeString key ++ ':' :: write value
  | (key, value) :: next :: rest =>
      writeString key ++ ':' :: write value ++ ',' :: writeFields (next :: rest)

end

/-- The compact text of a value. -/
def compact (json : Json) : String :=
  String.ofList json.write

end CriteriaQuery.Json
