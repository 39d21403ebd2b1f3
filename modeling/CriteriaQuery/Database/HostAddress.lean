import CriteriaQuery.Text.Identifier
import CriteriaQuery.Text.Quoted

/-!
# Numeric host addresses

A host is addressed by four octets between dots, or by eight groups of hexadecimal
digits between colons. Between colons, a run of zero groups may be left out once,
which two colons in a row show, and the last two groups may be written as four
octets.
-/

namespace CriteriaQuery.HostAddress

/-- An octet is a number below 256 in decimal digits, without leading zeros. -/
def isOctet (digits : List Char) : Bool :=
  (1 ≤ digits.length && digits.length ≤ 3) && digits.all Char.isDigit &&
    (digits.length == 1 || digits.head? != some '0') &&
    decide (Nat.ofDigitChars 10 digits 0 < 256)

/-- Four octets between dots. -/
def isDotted (text : List Char) : Bool :=
  let octets := Text.splitAt '.' text
  octets.length == 4 && octets.all isOctet

/-- A group is one to four hexadecimal digits. -/
def isGroup (digits : List Char) : Bool :=
  (1 ≤ digits.length && digits.length ≤ 4) &&
    digits.all fun digit => (Text.hexValue? digit).isSome

/-- The parts of a text between colons; an empty text has none. -/
def colonParts (text : List Char) : List (List Char) :=
  if text.isEmpty then [] else Text.splitAt ':' text

/-- The number of groups that the parts between colons stand for: one for each, and
two for octets, which may only come last. -/
def groupCount? : List (List Char) → Option Nat
  | [] => some 0
  | [last] => if isDotted last then some 2 else if isGroup last then some 1 else none
  | part :: rest => if isGroup part then (groupCount? rest).map (· + 1) else none

/-- The texts before and after the first two colons in a row. -/
def splitGap? : List Char → Option (List Char × List Char)
  | ':' :: ':' :: rest => some ([], rest)
  | char :: rest => (splitGap? rest).map fun (before, after) => (char :: before, after)
  | [] => none

/-- Eight groups between colons, or fewer around a gap, which stands for at least one. -/
def isColonSeparated (text : List Char) : Bool :=
  match splitGap? text with
  | none => groupCount? (colonParts text) == some 8
  | some (before, after) =>
      let leading := colonParts before
      leading.all isGroup &&
        match groupCount? (colonParts after) with
        | some trailing => leading.length + trailing ≤ 7
        | none => false

/-- Whether a text is the numeric address of a host. -/
def isHostAddress (text : String) : Bool :=
  isDotted text.toList || isColonSeparated text.toList

end CriteriaQuery.HostAddress
