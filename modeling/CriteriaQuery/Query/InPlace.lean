import CriteriaQuery.Bytes
import CriteriaQuery.Query.Rendering

/-!
# Expressions in place

An expression can be put into a statement without taking it apart into tokens.  A cursor goes
over the bytes of the text and only notices quotes and colons, both of which are ASCII.  What
it goes over is copied later, by a slice up to the next reference or up to the end.

Bytes and slices are asked for by offsets.  To ask where there is none is an outcome of its
own, so that it can be shown never to happen.
-/

namespace CriteriaQuery.Statement

open Wire (utf8)

/-- Why an expression is not put into a statement. -/
inductive Stop where
  /-- A byte or a slice was asked for where the text has none. -/
  | outOfPlace
  | failed (error : QueryError)

/-- Where a scan of an expression stands. -/
structure Cursor where
  /-- The text in front of this offset is in the statement. -/
  copied : Nat
  /-- The offset of the byte that is looked at next. -/
  index : Nat
  inLiteral : Bool
  statement : Statement

/-- The cursor in front of an expression. -/
def Cursor.start (statement : Statement) : Cursor where
  copied := 0
  index := 0
  inLiteral := false
  statement

/-- Go over bytes without copying them yet. -/
def Cursor.skip (cursor : Cursor) (count : Nat) : Cursor :=
  { cursor with index := cursor.index + count }

/-- Go over a colon and a name behind it, with the text in front of them and the value they
refer to put into the statement. -/
def Cursor.put (cursor : Cursor) (length : Nat) (passed : String) (value : Value) : Cursor where
  copied := cursor.index + 1 + length
  index := cursor.index + 1 + length
  inLiteral := cursor.inLiteral
  statement := (cursor.statement.push passed).append (valueSymbols value)

/-- The byte of a single quote. -/
def quoteByte : UInt8 := 0x27

/-- The byte of a colon. -/
def colonByte : UInt8 := 0x3A

/-- Whether a byte may stand in the name of a parameter: that of an ASCII letter or digit, or
of an underscore. -/
def isWordByte (byte : UInt8) : Bool :=
  byte == 0x5F || (0x30 ≤ byte && byte ≤ 0x39) || (0x41 ≤ byte && byte ≤ 0x5A) ||
    (0x61 ≤ byte && byte ≤ 0x7A)

/-- The number of bytes of the name that begins at an offset. -/
def nameLength (text : String) (offset : Nat) : Nat :=
  (((utf8 text).drop offset).takeWhile isWordByte).length

variable (parameters : OrderedMap String Value) (text : String)

/-- Put the reference at the cursor into the statement, behind the text in front of it. -/
def putReference (cursor : Cursor) (length : Nat) : Except Stop Cursor :=
  match Text.slice? text (cursor.index + 1) (cursor.index + 1 + length) with
  | none => .error .outOfPlace
  | some name =>
      match parameters.get? name with
      | none => .error (.failed (.configuration (.unboundParameter name)))
      | some value =>
          match Text.slice? text cursor.copied cursor.index with
          | none => .error .outOfPlace
          | some passed => .ok (cursor.put length passed value)

/-- Go on from a colon outside quotes: over both colons of a cast, over a reference, which is
put into the statement, or over the colon alone. -/
def passColon (cursor : Cursor) : Except Stop Cursor :=
  if (utf8 text)[cursor.index + 1]? = some colonByte then .ok (cursor.skip 2)
  else if (utf8 text).length < cursor.index + 1 then .error .outOfPlace
  else if nameLength text (cursor.index + 1) = 0 then .ok (cursor.skip 1)
  else putReference parameters text cursor (nameLength text (cursor.index + 1))

/-- One round of the scan. -/
def scanRound (cursor : Cursor) : Except Stop Cursor :=
  match (utf8 text)[cursor.index]? with
  | none => .error .outOfPlace
  | some byte =>
      if byte = quoteByte then .ok { cursor.skip 1 with inLiteral := !cursor.inLiteral }
      else if byte = colonByte ∧ cursor.inLiteral = false then passColon parameters text cursor
      else .ok (cursor.skip 1)

/-- All that a round can do. -/
inductive Round (cursor : Cursor) : Cursor → Prop where
  /-- A quote begins or ends a literal. -/
  | quote (here : (utf8 text)[cursor.index]? = some quoteByte) :
      Round cursor { cursor.skip 1 with inLiteral := !cursor.inLiteral }
  | cast (outside : cursor.inLiteral = false)
      (here : (utf8 text)[cursor.index]? = some colonByte)
      (again : (utf8 text)[cursor.index + 1]? = some colonByte) :
      Round cursor (cursor.skip 2)
  | reference {name passed : String} {value : Value} (outside : cursor.inLiteral = false)
      (here : (utf8 text)[cursor.index]? = some colonByte)
      (single : (utf8 text)[cursor.index + 1]? ≠ some colonByte)
      (named : nameLength text (cursor.index + 1) ≠ 0)
      (nameCut : Text.slice? text (cursor.index + 1)
        (cursor.index + 1 + nameLength text (cursor.index + 1)) = some name)
      (bound : parameters.get? name = some value)
      (passedCut : Text.slice? text cursor.copied cursor.index = some passed) :
      Round cursor (cursor.put (nameLength text (cursor.index + 1)) passed value)
  /-- Any other byte is gone over, and so is a colon that begins neither a cast nor a
  reference. -/
  | pass {byte : UInt8} (here : (utf8 text)[cursor.index]? = some byte)
      (notQuote : byte ≠ quoteByte)
      (harmless : byte = colonByte → cursor.inLiteral = false →
        (utf8 text)[cursor.index + 1]? ≠ some colonByte ∧
          nameLength text (cursor.index + 1) = 0) :
      Round cursor (cursor.skip 1)

variable {parameters text} {cursor next : Cursor}

/-- A reference is put into the statement only with its name, its value and the text in front
of it. -/
theorem putReference_eq_ok {length : Nat}
    (put : putReference parameters text cursor length = .ok next) :
    ∃ name value passed,
      Text.slice? text (cursor.index + 1) (cursor.index + 1 + length) = some name ∧
        parameters.get? name = some value ∧
        Text.slice? text cursor.copied cursor.index = some passed ∧
        next = cursor.put length passed value := by
  rw [putReference] at put
  split at put
  · cases put
  · next name nameCut =>
      split at put
      · cases put
      · next value bound =>
          split at put
          · cases put
          · next passed passedCut =>
              exact ⟨name, value, passed, nameCut, bound, passedCut, (Except.ok.inj put).symm⟩

theorem round_of_passColon (outside : cursor.inLiteral = false)
    (here : (utf8 text)[cursor.index]? = some colonByte)
    (passed : passColon parameters text cursor = .ok next) :
    Round parameters text cursor next := by
  rw [passColon] at passed
  split at passed
  · next again =>
      cases passed
      exact .cast outside here again
  · next single =>
      split at passed
      · cases passed
      · split at passed
        · next unnamed =>
            cases passed
            exact .pass here (by decide) fun _ _ => ⟨single, unnamed⟩
        · next named =>
            obtain ⟨name, value, inFront, nameCut, bound, passedCut, same⟩ :=
              putReference_eq_ok passed
            subst same
            exact .reference outside here single named nameCut bound passedCut

theorem round_of_scanRound (went : scanRound parameters text cursor = .ok next) :
    Round parameters text cursor next := by
  rw [scanRound] at went
  split at went
  · cases went
  · next byte here =>
      split at went
      · next isQuote =>
          cases went
          exact .quote (isQuote ▸ here)
      · next notQuote =>
          split at went
          · next colon => exact round_of_passColon colon.2 (colon.1 ▸ here) went
          · next other =>
              cases went
              exact .pass here notQuote fun isColon outside => absurd ⟨isColon, outside⟩ other

/-- Every round goes on. -/
theorem index_lt_of_scanRound (went : scanRound parameters text cursor = .ok next) :
    cursor.index < next.index := by
  cases round_of_scanRound went with
  | quote here => exact Nat.lt_succ_self _
  | cast outside here again => exact Nat.lt_add_of_pos_right Nat.two_pos
  | reference outside here single named nameCut bound passedCut =>
      exact Nat.lt_of_lt_of_le (Nat.lt_succ_self _) (Nat.le_add_right _ _)
  | pass here notQuote harmless => exact Nat.lt_succ_self _

variable (parameters text)

/-- Scan the rest of an expression into the statement. -/
def scanFrom (cursor : Cursor) : Except Stop Statement :=
  if cursor.index < text.utf8ByteSize then
    match _went : scanRound parameters text cursor with
    | .error stop => .error stop
    | .ok next => scanFrom next
  else
    match Text.slice? text cursor.copied text.utf8ByteSize with
    | none => .error .outOfPlace
    | some passed => .ok (cursor.statement.push passed)
termination_by text.utf8ByteSize - cursor.index
decreasing_by
  have onward := index_lt_of_scanRound _went
  omega

/-- Put an expression behind a statement, in place. -/
def pushInPlace (statement : Statement) : Except Stop Statement :=
  scanFrom parameters text (.start statement)

end CriteriaQuery.Statement
