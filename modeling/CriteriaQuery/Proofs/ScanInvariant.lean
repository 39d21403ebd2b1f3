import CriteriaQuery.Proofs.ByteOffsets
import CriteriaQuery.Query.InPlace

/-!
# What a scan in place preserves

A scan by byte offsets is safe because it only stops and cuts next to ASCII bytes.  In UTF-8
such a byte is a character of its own, so there is a boundary on either side of it, however
many bytes the characters around it have.  That holds in every round: what was copied ends at
a boundary that the cursor has not passed yet, and the cursor is within the text.

Hence nothing is asked for out of place, and a scan has no more rounds than the text has
bytes.
-/

namespace CriteriaQuery

namespace Text

open Statement (isWordByte nameLength)
open Wire (utf8)

theorem isWordByte_iff (byte : UInt8) :
    isWordByte byte = true ↔ byte.toNat = 95 ∨ (48 ≤ byte.toNat ∧ byte.toNat ≤ 57) ∨
      (65 ≤ byte.toNat ∧ byte.toNat ≤ 90) ∨ (97 ≤ byte.toNat ∧ byte.toNat ≤ 122) := by
  simp [isWordByte, UInt8.le_iff_toNat_le, ← UInt8.toNat_inj, or_assoc]

theorem ascii_of_isWordByte {byte : UInt8} (word : isWordByte byte = true) : byte.toNat < 128 := by
  rw [isWordByte_iff] at word
  omega

/-- The name at an offset goes up to a boundary. -/
theorem isCharBoundary_add_nameLength {text : String} {offset : Nat}
    (boundary : isCharBoundary text offset = true) :
    isCharBoundary text (offset + nameLength text offset) = true := by
  cases length : nameLength text offset with
  | zero => exact boundary
  | succ before =>
      -- the last byte of the name is ASCII
      have inside : before < (((utf8 text).drop offset).takeWhile isWordByte).length := by
        rw [← nameLength, length]
        exact Nat.lt_succ_self _
      have word := List.mem_takeWhile_imp (List.getElem_mem inside)
      have here : (utf8 text)[offset + before]? =
          some (((utf8 text).drop offset).takeWhile isWordByte)[before] := by
        rw [← List.getElem?_drop, (List.takeWhile_prefix isWordByte).getElem inside]
        exact List.getElem?_eq_getElem _
      exact (isCharBoundary_of_ascii here (ascii_of_isWordByte word)).2

end Text

namespace Statement

open Wire (utf8)

variable {parameters : OrderedMap String Value} {text : String} {cursor next : Cursor}

/-- At a colon outside quotes with a name behind it a reference is put. -/
theorem scanRound_reference (outside : cursor.inLiteral = false)
    (here : (utf8 text)[cursor.index]? = some colonByte)
    (single : (utf8 text)[cursor.index + 1]? ≠ some colonByte)
    (named : nameLength text (cursor.index + 1) ≠ 0) :
    scanRound parameters text cursor =
      putReference parameters text cursor (nameLength text (cursor.index + 1)) := by
  obtain ⟨inside, -⟩ := List.getElem?_eq_some_iff.1 here
  have notQuote : colonByte ≠ quoteByte := by decide
  rw [scanRound, here]
  simp only [if_neg notQuote, outside, and_self, if_true, passColon, if_neg single,
    if_neg (Nat.not_lt_of_le (Nat.succ_le_of_lt inside)), if_neg named]

/-- A round that can be made is made. -/
theorem scanRound_of_round (round : Round parameters text cursor next) :
    scanRound parameters text cursor = .ok next := by
  cases round with
  | quote here => simp [scanRound, here]
  | cast outside here again =>
      simp [scanRound, here, outside, passColon, again, colonByte, quoteByte]
  | reference outside here single named nameCut bound passedCut =>
      rw [scanRound_reference outside here single named, putReference]
      simp only [nameCut, bound, passedCut]
  | pass here notQuote harmless =>
      obtain ⟨inside, -⟩ := List.getElem?_eq_some_iff.1 here
      rw [scanRound, here]
      simp only [if_neg notQuote]
      split
      · next colon =>
          obtain ⟨single, unnamed⟩ := harmless colon.1 colon.2
          rw [passColon, if_neg single, if_neg (Nat.not_lt_of_le (Nat.succ_le_of_lt inside)),
            if_pos unnamed]
      · rfl

variable (text) in
/-- Where a cursor may stand: within the text and not in front of what was copied, which ends
between two characters. -/
structure InPlace (cursor : Cursor) : Prop where
  copied_le : cursor.copied ≤ cursor.index
  index_le : cursor.index ≤ text.utf8ByteSize
  boundary : Text.isCharBoundary text cursor.copied = true

theorem inPlace_start (statement : Statement) : InPlace text (.start statement) where
  copied_le := Nat.le_refl _
  index_le := Nat.zero_le _
  boundary := Text.isCharBoundary_zero text

/-- A byte of the text is in front of its end. -/
theorem lt_utf8ByteSize {offset : Nat} {byte : UInt8} (here : (utf8 text)[offset]? = some byte) :
    offset < text.utf8ByteSize := by
  obtain ⟨inside, -⟩ := List.getElem?_eq_some_iff.1 here
  exact inside

/-- Rounds are made within the text only. -/
theorem Round.unfinished (round : Round parameters text cursor next) :
    cursor.index < text.utf8ByteSize := by
  cases round with
  | quote here => exact lt_utf8ByteSize here
  | cast outside here again => exact lt_utf8ByteSize here
  | reference outside here single named nameCut bound passedCut => exact lt_utf8ByteSize here
  | pass here notQuote harmless => exact lt_utf8ByteSize here

/-- A round leads from place to place. -/
theorem InPlace.round (inPlace : InPlace text cursor) (round : Round parameters text cursor next) :
    InPlace text next := by
  cases round with
  | quote here =>
      exact ⟨Nat.le_succ_of_le inPlace.copied_le, lt_utf8ByteSize here, inPlace.boundary⟩
  | cast outside here again =>
      exact ⟨Nat.le_add_right_of_le inPlace.copied_le, lt_utf8ByteSize again, inPlace.boundary⟩
  | reference outside here single named nameCut bound passedCut =>
      have name := Text.isSome_slice?_iff.1 (Option.isSome_of_eq_some nameCut)
      exact ⟨Nat.le_refl _, name.within, name.last_boundary⟩
  | pass here notQuote harmless =>
      exact ⟨Nat.le_succ_of_le inPlace.copied_le, lt_utf8ByteSize here, inPlace.boundary⟩

/-- Around a colon and behind the name that follows it there are boundaries. -/
theorem boundaries_of_colon {offset : Nat} (here : (utf8 text)[offset]? = some colonByte) :
    Text.isCharBoundary text offset = true ∧ Text.isCharBoundary text (offset + 1) = true ∧
      Text.isCharBoundary text (offset + 1 + nameLength text (offset + 1)) = true := by
  obtain ⟨inFront, behind⟩ := Text.isCharBoundary_of_ascii here (by decide)
  exact ⟨inFront, behind, Text.isCharBoundary_add_nameLength behind⟩

/-- The name behind a colon can be cut out. -/
theorem cuttable_name {offset : Nat} (here : (utf8 text)[offset]? = some colonByte) :
    Text.Cuttable text (offset + 1) (offset + 1 + nameLength text (offset + 1)) := by
  obtain ⟨-, behind, last⟩ := boundaries_of_colon here
  exact .of_boundaries (Nat.le_add_right _ _) behind last

/-- What is in front of a colon can be cut out. -/
theorem InPlace.cuttable_passed (inPlace : InPlace text cursor)
    (here : (utf8 text)[cursor.index]? = some colonByte) :
    Text.Cuttable text cursor.copied cursor.index :=
  .of_boundaries inPlace.copied_le inPlace.boundary (boundaries_of_colon here).1

/-- What is left when a scan is over can be cut out. -/
theorem InPlace.cuttable_left (inPlace : InPlace text cursor) :
    Text.Cuttable text cursor.copied text.utf8ByteSize :=
  .of_boundaries (Nat.le_trans inPlace.copied_le inPlace.index_le) inPlace.boundary
    (Text.isCharBoundary_utf8ByteSize text)

/-- From a place within the text a round is made, or a reference without a value stops it. -/
theorem InPlace.progress (inPlace : InPlace text cursor)
    (unfinished : cursor.index < text.utf8ByteSize) :
    (∃ next, scanRound parameters text cursor = .ok next) ∨
      ∃ name, parameters.get? name = none ∧
        scanRound parameters text cursor =
          .error (.failed (.configuration (.unboundParameter name))) := by
  have here : (utf8 text)[cursor.index]? = some (utf8 text)[cursor.index] :=
    List.getElem?_eq_getElem unfinished
  by_cases quote : (utf8 text)[cursor.index] = quoteByte
  · exact .inl ⟨_, scanRound_of_round (.quote (quote ▸ here))⟩
  · by_cases reference : (utf8 text)[cursor.index] = colonByte ∧ cursor.inLiteral = false ∧
        (utf8 text)[cursor.index + 1]? ≠ some colonByte ∧ nameLength text (cursor.index + 1) ≠ 0
    · obtain ⟨colon, outside, single, named⟩ := reference
      rw [colon] at here
      obtain ⟨name, nameCut⟩ :=
        Option.isSome_iff_exists.1 (Text.isSome_slice?_iff.2 (cuttable_name here))
      obtain ⟨passed, passedCut⟩ :=
        Option.isSome_iff_exists.1 (Text.isSome_slice?_iff.2 (inPlace.cuttable_passed here))
      cases bound : parameters.get? name with
      | some value =>
          exact .inl ⟨_, scanRound_of_round
            (.reference outside here single named nameCut bound passedCut)⟩
      | none =>
          refine .inr ⟨name, bound, ?_⟩
          rw [scanRound_reference outside here single named, putReference]
          simp only [nameCut, bound]
    · by_cases cast : (utf8 text)[cursor.index] = colonByte ∧ cursor.inLiteral = false ∧
          (utf8 text)[cursor.index + 1]? = some colonByte
      · obtain ⟨colon, outside, again⟩ := cast
        exact .inl ⟨_, scanRound_of_round (.cast outside (colon ▸ here) again)⟩
      · refine .inl ⟨_, scanRound_of_round (.pass here quote ?_)⟩
        intro colon outside
        have single : (utf8 text)[cursor.index + 1]? ≠ some colonByte :=
          fun again => cast ⟨colon, outside, again⟩
        refine ⟨single, ?_⟩
        by_contra named
        exact reference ⟨colon, outside, single, named⟩

/-- From a place within the text nothing is asked for out of place. -/
theorem InPlace.not_outOfPlace (inPlace : InPlace text cursor)
    (unfinished : cursor.index < text.utf8ByteSize) :
    scanRound parameters text cursor ≠ .error .outOfPlace := by
  rcases inPlace.progress unfinished with made | missing
  · obtain ⟨next, went⟩ := made
    rw [went]
    exact fun stopped => nomatch stopped
  · obtain ⟨name, -, stopped⟩ := missing
    rw [stopped]
    exact fun outOfPlace => nomatch outOfPlace

variable (parameters text) in
/-- The cursors that a scan comes to, with the number of rounds before. -/
inductive Reaches (start : Cursor) : Nat → Cursor → Prop where
  | start : Reaches start 0 start
  | round {count : Nat} {cursor next : Cursor} (reached : Reaches start count cursor)
      (unfinished : cursor.index < text.utf8ByteSize)
      (went : scanRound parameters text cursor = .ok next) :
      Reaches start (count + 1) next

/-- In every round the cursor stands in place, and at least one byte further than before. -/
theorem inPlace_of_reaches {statement : Statement} {count : Nat}
    (reached : Reaches parameters text (.start statement) count cursor) :
    InPlace text cursor ∧ count ≤ cursor.index := by
  induction reached with
  | start => exact ⟨inPlace_start statement, Nat.le_refl _⟩
  | round reached unfinished went ih =>
      obtain ⟨inPlace, counted⟩ := ih
      exact ⟨inPlace.round (round_of_scanRound went),
        Nat.lt_of_le_of_lt counted (index_lt_of_scanRound went)⟩

/-- A scan comes to the end of the text or to a reference without a value. -/
theorem exists_reaches_last {statement : Statement} {count : Nat} {cursor : Cursor}
    (reached : Reaches parameters text (.start statement) count cursor) :
    ∃ rounds last, Reaches parameters text (.start statement) rounds last ∧
      (last.index = text.utf8ByteSize ∨ ∃ name, parameters.get? name = none ∧
        scanRound parameters text last =
          .error (.failed (.configuration (.unboundParameter name)))) := by
  obtain ⟨inPlace, -⟩ := inPlace_of_reaches reached
  rcases Nat.lt_or_eq_of_le inPlace.index_le with unfinished | finished
  · rcases inPlace.progress unfinished with made | missing
    · obtain ⟨next, went⟩ := made
      have onward := index_lt_of_scanRound went
      exact exists_reaches_last (.round reached unfinished went)
    · exact ⟨count, cursor, reached, .inr missing⟩
  · exact ⟨count, cursor, reached, .inl finished⟩
termination_by text.utf8ByteSize - cursor.index
decreasing_by omega

/-- Within the text a scan goes on from the cursor that a round leads to. -/
theorem scanFrom_of_lt (unfinished : cursor.index < text.utf8ByteSize) :
    scanFrom parameters text cursor =
      (scanRound parameters text cursor).bind (scanFrom parameters text) := by
  rw [scanFrom, if_pos unfinished]
  split
  · next stop stopped => rw [stopped]; rfl
  · next next made => rw [made]; rfl

/-- Rounds that are made are part of the scan. -/
theorem scanFrom_of_round (round : Round parameters text cursor next) :
    scanFrom parameters text cursor = scanFrom parameters text next := by
  rw [scanFrom_of_lt round.unfinished, scanRound_of_round round]
  rfl

/-- What a scan makes of an expression it makes from every cursor that it comes to. -/
theorem scanFrom_of_reaches {start : Cursor} {count : Nat}
    (reached : Reaches parameters text start count cursor) :
    scanFrom parameters text start = scanFrom parameters text cursor := by
  induction reached with
  | start => rfl
  | round reached unfinished went ih =>
      exact ih.trans (scanFrom_of_round (round_of_scanRound went))

end Statement

end CriteriaQuery
