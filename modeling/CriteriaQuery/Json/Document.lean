import CriteriaQuery.Text.Quoted

/-!
# JSON documents

The parse tree of a JSON text with numbers and strings as they are written: a
number keeps its digits and a string its escapes. The grammar is that of
RFC 8259; blanks are space, tab, line feed and carriage return. Whether a number
is in range and an escape is a character is decided when the tree is read as
values, so that parts nobody reads need only be well-formed.
-/

namespace CriteriaQuery.Json

/-- A number as written: its digits before and after the point and in the exponent. -/
structure NumberLiteral where
  negative : Bool
  whole : List Nat
  fraction : List Nat
  exponent : Option (Bool × List Nat)
deriving DecidableEq, Repr

/-- A piece of a string as written: a character, or a 16-bit unit by its number. -/
inductive StringPiece where
  | char (char : Char)
  | unit (number : Nat)
deriving DecidableEq, Repr

/-- A JSON text as written. -/
inductive Document where
  | null
  | bool (flag : Bool)
  | number (literal : NumberLiteral)
  | string (pieces : List StringPiece)
  | array (items : List Document)
  | object (fields : List (List StringPiece × Document))
deriving Repr, Inhabited

namespace Document

/-- Space, tab, line feed and carriage return. -/
def isBlank (char : Char) : Bool :=
  char == ' ' || char == '\t' || char == '\n' || char == '\r'

/-- The text after its leading blanks. -/
def skipBlanks (text : List Char) : List Char :=
  text.dropWhile isBlank

/-- The leading decimal digits of a text and what follows them. -/
def takeDigits : List Char → List Nat × List Char
  | [] => ([], [])
  | char :: rest =>
      if char.isDigit then
        let (digits, remaining) := takeDigits rest
        ((char.toNat - '0'.toNat) :: digits, remaining)
      else ([], char :: rest)

/-- At least one decimal digit. -/
def takeSomeDigits (text : List Char) : Option (List Nat × List Char) :=
  match takeDigits text with
  | ([], _) => none
  | found => some found

/-- The digits before the point: a zero, or digits that do not start with one. -/
def takeWhole : List Char → Option (List Nat × List Char)
  | '0' :: rest => some ([0], rest)
  | text => takeSomeDigits text

/-- The point and the digits after it, which may both be missing. -/
def takeFraction : List Char → Option (List Nat × List Char)
  | '.' :: rest => takeSomeDigits rest
  | text => some ([], text)

/-- The sign of an exponent, negative or not, and what follows it. -/
def takeExponentSign : List Char → Bool × List Char
  | '-' :: rest => (true, rest)
  | '+' :: rest => (false, rest)
  | text => (false, text)

/-- The exponent, which may be missing. -/
def takeExponent (text : List Char) : Option (Option (Bool × List Nat) × List Char) :=
  match text with
  | [] => some (none, [])
  | char :: rest =>
      if char = 'e' ∨ char = 'E' then
        let (negative, digits) := takeExponentSign rest
        (takeSomeDigits digits).map fun found => (some (negative, found.1), found.2)
      else some (none, char :: rest)

/-- A number without its sign. -/
def takeUnsigned (negative : Bool) (text : List Char) : Option (NumberLiteral × List Char) := do
  let (whole, afterWhole) ← takeWhole text
  let (fraction, afterFraction) ← takeFraction afterWhole
  let (exponent, rest) ← takeExponent afterFraction
  return ({ negative, whole, fraction, exponent }, rest)

/-- A number. -/
def takeNumber : List Char → Option (NumberLiteral × List Char)
  | '-' :: rest => takeUnsigned true rest
  | text => takeUnsigned false text

/-- The unit that four hexadecimal digits write. -/
def unitOf? (first second third fourth : Char) : Option Nat := do
  let high ← Text.hexValue? first
  let middle ← Text.hexValue? second
  let low ← Text.hexValue? third
  let last ← Text.hexValue? fourth
  return ((high * 16 + middle) * 16 + low) * 16 + last

/-- The character of an escape of two characters. -/
def escape? : Char → Option Char
  | '"' => some '"'
  | '\\' => some '\\'
  | '/' => some '/'
  | 'b' => some '\x08'
  | 'f' => some '\x0c'
  | 'n' => some '\n'
  | 'r' => some '\r'
  | 't' => some '\t'
  | _ => none

/-- Put a piece in front of a string that was read. -/
def consPiece (piece : StringPiece) (found : List StringPiece × List Char) :
    List StringPiece × List Char :=
  (piece :: found.1, found.2)

/-- A string after its opening quote. Controls below the space must be escaped. -/
def takeString : List Char → Option (List StringPiece × List Char)
  | [] => none
  | '"' :: rest => some ([], rest)
  | '\\' :: 'u' :: first :: second :: third :: fourth :: rest => do
      let unit ← unitOf? first second third fourth
      (takeString rest).map (consPiece (.unit unit))
  | '\\' :: name :: rest => do
      let char ← escape? name
      (takeString rest).map (consPiece (.char char))
  | char :: rest =>
      if char.toNat < 0x20 ∨ char = '\\' then none
      else (takeString rest).map (consPiece (.char char))

mutual

/-- A value after blanks, with the depth of the recursion as fuel. -/
def takeValue : Nat → List Char → Option (Document × List Char)
  | 0, _ => none
  | fuel + 1, text =>
      match skipBlanks text with
      | 'n' :: 'u' :: 'l' :: 'l' :: rest => some (.null, rest)
      | 't' :: 'r' :: 'u' :: 'e' :: rest => some (.bool true, rest)
      | 'f' :: 'a' :: 'l' :: 's' :: 'e' :: rest => some (.bool false, rest)
      | '"' :: rest => (takeString rest).map fun found => (.string found.1, found.2)
      | '[' :: rest =>
          match skipBlanks rest with
          | ']' :: after => some (.array [], after)
          | items => (takeItems fuel items).map fun found => (.array found.1, found.2)
      | '\x7b' :: rest =>
          match skipBlanks rest with
          | '\x7d' :: after => some (.object [], after)
          | fields => (takeFields fuel fields).map fun found => (.object found.1, found.2)
      | other => (takeNumber other).map fun found => (.number found.1, found.2)

/-- Array items, at least one, up to and with the closing bracket. -/
def takeItems : Nat → List Char → Option (List Document × List Char)
  | 0, _ => none
  | fuel + 1, text =>
      match takeValue fuel text with
      | none => none
      | some (item, rest) =>
          match skipBlanks rest with
          | ']' :: after => some ([item], after)
          | ',' :: after => (takeItems fuel after).map fun found => (item :: found.1, found.2)
          | _ => none

/-- Object fields, at least one, up to and with the closing brace. -/
def takeFields : Nat → List Char → Option (List (List StringPiece × Document) × List Char)
  | 0, _ => none
  | fuel + 1, text =>
      match skipBlanks text with
      | '"' :: opened =>
          match takeString opened with
          | none => none
          | some (key, afterKey) =>
              match skipBlanks afterKey with
              | ':' :: valueText =>
                  match takeValue fuel valueText with
                  | none => none
                  | some (value, rest) =>
                      match skipBlanks rest with
                      | '\x7d' :: after => some ([(key, value)], after)
                      | ',' :: after =>
                          (takeFields fuel after).map fun found =>
                            ((key, value) :: found.1, found.2)
                      | _ => none
              | _ => none
      | _ => none

end

/-- The document of a text that is one JSON value between blanks. Every second level of
the recursion consumes a character, so twice the length is fuel enough. -/
def ofText? (text : String) : Option Document :=
  match takeValue (2 * text.length + 2) text.toList with
  | some (document, rest) => if (skipBlanks rest).isEmpty then some document else none
  | none => none

end Document

end CriteriaQuery.Json
