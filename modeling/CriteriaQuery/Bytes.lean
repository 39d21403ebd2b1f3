/-!
# Byte sequences

Numbers in network order: the most significant byte comes first, and negative numbers are in
two's complement.

Text by its bytes: its length in UTF-8, slices between two byte offsets, and the longest
beginning that fits a number of bytes. An offset lies between two characters if the byte
behind it does not continue a character. There is a slice only between two offsets of that
kind that are in order and within the text, and a cut is moved back to the nearest of them.
-/

namespace CriteriaQuery.Wire

/-- A byte sequence. -/
abbrev Bytes := List UInt8

/-- The lowest `width` bytes of a number, most significant first. -/
def bigEndian : Nat → Nat → Bytes
  | 0, _ => []
  | width + 1, number => bigEndian width (number / 256) ++ [UInt8.ofNat number]

theorem length_bigEndian (width number : Nat) : (bigEndian width number).length = width := by
  induction width generalizing number with
  | zero => rfl
  | succ width ih => simp [bigEndian, ih]

/-- An integer in two's complement of `width` bytes. -/
def twosComplement (width : Nat) (number : Int) : Bytes :=
  bigEndian width (number % Int.ofNat (Nat.pow 2 (8 * width))).toNat

/-- The UTF-8 bytes of a text. -/
def utf8 (text : String) : Bytes :=
  text.toUTF8.data.toList

end CriteriaQuery.Wire

namespace CriteriaQuery.Text

/-- The number of bytes that characters take in UTF-8. -/
def utf8Length : List Char → Nat
  | [] => 0
  | char :: rest => char.utf8Size + utf8Length rest

/-- Whether a byte offset lies between two characters or at an end of the text. -/
def isBoundary : List Char → Nat → Bool
  | _, 0 => true
  | [], _ + 1 => false
  | char :: rest, offset + 1 =>
      decide (char.utf8Size ≤ offset + 1) && isBoundary rest (offset + 1 - char.utf8Size)

/-- The last boundary at or before a byte offset. -/
def boundaryBefore (chars : List Char) : Nat → Nat
  | 0 => 0
  | offset + 1 =>
      if isBoundary chars (offset + 1) then offset + 1 else boundaryBefore chars offset

theorem boundaryBefore_le (chars : List Char) (offset : Nat) :
    boundaryBefore chars offset ≤ offset := by
  induction offset with
  | zero => simp [boundaryBefore]
  | succ offset ih =>
      simp only [boundaryBefore]
      split
      · exact Nat.le_refl _
      · exact Nat.le_succ_of_le ih

/-- The cut is a boundary. -/
theorem isBoundary_boundaryBefore (chars : List Char) (offset : Nat) :
    isBoundary chars (boundaryBefore chars offset) = true := by
  induction offset with
  | zero => simp [boundaryBefore, isBoundary]
  | succ offset ih =>
      simp only [boundaryBefore]
      split
      · next boundary => exact boundary
      · exact ih

/-- The characters before a boundary. -/
def takeBytes : List Char → Nat → List Char
  | [], _ => []
  | char :: rest, bytes =>
      if char.utf8Size ≤ bytes then char :: takeBytes rest (bytes - char.utf8Size) else []

/-- A text of at most `limit` bytes as it is, and a longer one cut at the last boundary
within the limit and marked with an ellipsis. -/
def truncate (text : String) (limit : Nat) : String :=
  if text.utf8ByteSize ≤ limit then text
  else
    String.ofList (takeBytes text.toList (boundaryBefore text.toList limit)) ++ "..."

open Wire (utf8)

/-- Whether a byte continues a character that began in front of it. -/
def continuesChar (byte : UInt8) : Bool :=
  0x80 ≤ byte && byte < 0xC0

/-- Whether an offset lies at an end of a text or in front of a byte that begins a
character. -/
def isCharBoundary (text : String) (offset : Nat) : Bool :=
  offset == 0 ||
    match (utf8 text)[offset]? with
    | some byte => !continuesChar byte
    | none => offset == (utf8 text).length

/-- The text between two offsets, if they are in order and both lie between characters. -/
def slice? (text : String) (first last : Nat) : Option String :=
  if first ≤ last && isCharBoundary text first && isCharBoundary text last then
    String.fromUTF8? (ByteArray.mk ((utf8 text).extract first last).toArray)
  else none

end CriteriaQuery.Text
