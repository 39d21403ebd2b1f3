import CriteriaQuery.Text.CharacterClasses

/-!
# Hexadecimal and quoted text

Numbers as a fixed count of lower-case hexadecimal digits, and the reading of such digits in
either case.

Text between double quotes as diagnostic output shows it. The quote, the backslash, tab, line
feed, carriage return and NUL have escapes of two characters; other characters that would not
show as themselves are written by their code point.
-/

namespace CriteriaQuery.Text

/-- The lowest `width` hexadecimal digits of a number, most significant first. -/
def hexDigits : Nat → Nat → List Char
  | 0, _ => []
  | width + 1, number => hexDigits width (number / 16) ++ [Nat.digitChar (number % 16)]

/-- The lowest `width` hexadecimal digits of a number as text. -/
def hex (width number : Nat) : String :=
  String.ofList (hexDigits width number)

/-- The value of one hexadecimal digit. -/
def hexValue? (char : Char) : Option Nat :=
  if '0' ≤ char ∧ char ≤ '9' then some (char.toNat - '0'.toNat)
  else if 'a' ≤ char ∧ char ≤ 'f' then some (char.toNat - 'a'.toNat + 10)
  else if 'A' ≤ char ∧ char ≤ 'F' then some (char.toNat - 'A'.toNat + 10)
  else none

/-- The number that hexadecimal digits write, most significant first. -/
def readHex? (chars : List Char) : Option Nat :=
  chars.foldl
    (fun number char => number.bind fun value => (hexValue? char).map (value * 16 + ·)) (some 0)

/-- A character inside a quoted text. -/
def quotedChar (char : Char) : List Char :=
  match char with
  | '"' => ['\\', '"']
  | '\\' => ['\\', '\\']
  | '\n' => ['\\', 'n']
  | '\r' => ['\\', 'r']
  | '\t' => ['\\', 't']
  | '\x00' => ['\\', '0']
  | other =>
      if isHidden other then
        ['\\', 'u', '\x7b'] ++ Nat.toDigits 16 other.toNat ++ ['\x7d']
      else [other]

/-- A text between quotes. -/
def quote (text : String) : String :=
  String.ofList ('"' :: text.toList.flatMap quotedChar ++ ['"'])

/-- Texts in a bracketed list. -/
def quoteAll (texts : List String) : String :=
  "[" ++ ", ".intercalate (texts.map quote) ++ "]"

end CriteriaQuery.Text
