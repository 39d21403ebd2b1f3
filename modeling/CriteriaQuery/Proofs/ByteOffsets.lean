import Mathlib.Data.List.TakeWhile
import CriteriaQuery.Bytes

/-!
# Byte offsets of a text

The bytes of a text are those of its characters, one character after the other.  The first
byte of a character continues nothing and all others continue it, so one byte is enough to
tell whether an offset lies between two characters: exactly then the characters of the text
fall into those in front of it and those behind it.  A slice between two such offsets is
made of the characters between them.
-/

namespace CriteriaQuery.Text

open Wire (utf8)

/-- The bytes of characters. -/
def encode (chars : List Char) : Wire.Bytes :=
  chars.flatMap String.utf8EncodeChar

@[simp] theorem encode_nil : encode [] = [] := rfl

@[simp] theorem encode_cons (char : Char) (rest : List Char) :
    encode (char :: rest) = String.utf8EncodeChar char ++ encode rest := rfl

@[simp] theorem encode_append (first second : List Char) :
    encode (first ++ second) = encode first ++ encode second :=
  List.flatMap_append

@[simp] theorem length_encode (chars : List Char) : (encode chars).length = utf8Length chars := by
  induction chars with
  | nil => rfl
  | cons char rest ih => simp [ih, utf8Length]

@[simp] theorem utf8Length_append (first second : List Char) :
    utf8Length (first ++ second) = utf8Length first + utf8Length second := by
  rw [← length_encode, encode_append, List.length_append, length_encode, length_encode]

theorem utf8_eq_encode (text : String) : utf8 text = encode text.toList := by
  have whole : text.toByteArray = text.toList.utf8Encode := by
    rw [← String.toByteArray_ofList, String.ofList_toList]
  rw [utf8, String.toUTF8_eq_toByteArray, whole, List.utf8Encode, List.data_toByteArray]
  rfl

theorem utf8ByteSize_eq (text : String) : text.utf8ByteSize = utf8Length text.toList := by
  rw [← length_encode, ← utf8_eq_encode]
  rfl

/-- What lies behind some characters is found behind their bytes. -/
theorem utf8_getElem?_add {text : String} {before after : List Char}
    (split : text.toList = before ++ after) (distance : Nat) :
    (utf8 text)[utf8Length before + distance]? = (encode after)[distance]? := by
  rw [utf8_eq_encode, split, encode_append, ← length_encode,
    List.getElem?_append_right (Nat.le_add_right _ _), Nat.add_sub_cancel_left]

theorem utf8_drop {text : String} {before after : List Char}
    (split : text.toList = before ++ after) :
    (utf8 text).drop (utf8Length before) = encode after := by
  rw [utf8_eq_encode, split, encode_append, ← length_encode, List.drop_left]

theorem continuesChar_iff (byte : UInt8) :
    continuesChar byte = true ↔ 128 ≤ byte.toNat ∧ byte.toNat < 192 := by
  simp [continuesChar, UInt8.le_iff_toNat_le, UInt8.lt_iff_toNat_lt]

theorem continuesChar_eq_false_iff (byte : UInt8) :
    continuesChar byte = false ↔ byte.toNat < 128 ∨ 192 ≤ byte.toNat := by
  rw [← Bool.not_eq_true, continuesChar_iff]
  omega

/-- A character is encoded as its code, or as bytes beyond ASCII of which the first continues
nothing and all others continue it. -/
theorem utf8EncodeChar_cases (char : Char) :
    (char.toNat < 128 ∧ String.utf8EncodeChar char = [UInt8.ofNat char.toNat]) ∨
      (128 ≤ char.toNat ∧ ∃ first rest, String.utf8EncodeChar char = first :: rest ∧
        192 ≤ first.toNat ∧ ∀ byte ∈ rest, continuesChar byte = true) := by
  have toNat : char.toNat = char.val.toNat := rfl
  rw [String.utf8EncodeChar, toNat]
  split
  · exact .inl ⟨by omega, rfl⟩
  · right
    refine ⟨by omega, ?_⟩
    split
    · refine ⟨_, _, rfl, ?_, ?_⟩
      · simp; omega
      · simp [continuesChar_iff]; omega
    · split
      · refine ⟨_, _, rfl, ?_, ?_⟩
        · simp; omega
        · simp [continuesChar_iff]; omega
      · refine ⟨_, _, rfl, ?_, ?_⟩
        · simp; omega
        · simp [continuesChar_iff]; omega

/-- What the bytes of a text begin with continues nothing. -/
theorem continuesChar_head {chars : List Char} {byte : UInt8}
    (here : (encode chars)[0]? = some byte) : continuesChar byte = false := by
  cases chars with
  | nil => simp at here
  | cons char rest =>
      rcases utf8EncodeChar_cases char with ⟨small, code⟩ | ⟨-, first, others, code, large, -⟩
      · rw [encode_cons, code, List.cons_append, List.getElem?_cons_zero, Option.some.injEq] at here
        rw [continuesChar_eq_false_iff, ← here, UInt8.toNat_ofNat']
        omega
      · rw [encode_cons, code, List.cons_append, List.getElem?_cons_zero, Option.some.injEq] at here
        exact (continuesChar_eq_false_iff byte).2 (.inr (here ▸ large))

/-- Inside a character every byte continues it. -/
theorem continuesChar_inside {char : Char} {rest : List Char} {offset : Nat} {byte : UInt8}
    (positive : 0 < offset) (inside : offset < char.utf8Size)
    (here : (encode (char :: rest))[offset]? = some byte) : continuesChar byte = true := by
  have length := String.length_utf8EncodeChar char
  rw [encode_cons, List.getElem?_append_left (length ▸ inside)] at here
  rcases utf8EncodeChar_cases char with ⟨-, code⟩ | ⟨-, first, others, code, -, continued⟩
  · rw [code] at length
    simp only [List.length_cons, List.length_nil] at length
    omega
  · rw [code, List.getElem?_cons, if_neg (Nat.ne_of_gt positive)] at here
    exact continued byte (List.mem_of_getElem? here)

/-- Characters fall apart in front of a byte that continues nothing, and at their end. -/
theorem exists_split {chars : List Char} {offset : Nat} (bounded : offset ≤ utf8Length chars)
    (begins : ∀ byte, (encode chars)[offset]? = some byte → continuesChar byte = false) :
    ∃ before after, chars = before ++ after ∧ utf8Length before = offset := by
  induction chars generalizing offset with
  | nil => exact ⟨[], [], rfl, (Nat.le_zero.1 bounded).symm⟩
  | cons char rest ih =>
      rcases Nat.eq_zero_or_pos offset with zero | positive
      · exact ⟨[], char :: rest, rfl, zero.symm⟩
      · have beyond : char.utf8Size ≤ offset := by
          by_contra inside
          have short : offset < (encode (char :: rest)).length := by
            rw [length_encode, utf8Length]
            omega
          have continued := continuesChar_inside positive (Nat.lt_of_not_le inside)
            (List.getElem?_eq_getElem short)
          rw [begins _ (List.getElem?_eq_getElem short)] at continued
          cases continued
        have later (byte : UInt8) (here : (encode rest)[offset - char.utf8Size]? = some byte) :
            continuesChar byte = false := by
          apply begins
          rwa [encode_cons, List.getElem?_append_right (by simpa using beyond),
            String.length_utf8EncodeChar]
        rw [utf8Length] at bounded
        obtain ⟨before, after, split, length⟩ := ih (by omega) later
        refine ⟨char :: before, after, by rw [split]; rfl, ?_⟩
        rw [utf8Length]
        omega

/-- An offset lies between two characters exactly if the text falls into two texts there. -/
theorem isCharBoundary_iff {text : String} {offset : Nat} :
    isCharBoundary text offset = true ↔
      ∃ before after, text.toList = before ++ after ∧ utf8Length before = offset := by
  constructor
  · intro boundary
    rw [isCharBoundary, Bool.or_eq_true, beq_iff_eq] at boundary
    rcases boundary with zero | boundary
    · exact ⟨[], text.toList, rfl, zero.symm⟩
    · rw [utf8_eq_encode] at boundary
      apply exists_split
      · cases here : (encode text.toList)[offset]? with
        | none =>
            rw [here, beq_iff_eq] at boundary
            rw [boundary, length_encode]
        | some byte =>
            rw [← length_encode]
            exact Nat.le_of_lt (List.getElem?_eq_some_iff.1 here).1
      · intro byte here
        rw [here, Bool.not_eq_true'] at boundary
        exact boundary
  · intro cut
    obtain ⟨before, after, split, length⟩ := cut
    have here := utf8_getElem?_add split 0
    rw [Nat.add_zero, length] at here
    rw [isCharBoundary, Bool.or_eq_true]
    right
    rw [here]
    cases begins : (encode after)[0]? with
    | none =>
        have atEnd : utf8Length after = 0 := by
          rw [← length_encode]
          exact Nat.le_zero.1 (List.getElem?_eq_none_iff.1 begins)
        rw [beq_iff_eq, utf8_eq_encode, split, length_encode, utf8Length_append, length, atEnd,
          Nat.add_zero]
    | some byte => simp only [continuesChar_head begins, Bool.not_false]

theorem isCharBoundary_zero (text : String) : isCharBoundary text 0 = true :=
  isCharBoundary_iff.2 ⟨[], text.toList, rfl, rfl⟩

theorem isCharBoundary_utf8ByteSize (text : String) :
    isCharBoundary text text.utf8ByteSize = true :=
  isCharBoundary_iff.2 ⟨text.toList, [], (List.append_nil _).symm, (utf8ByteSize_eq text).symm⟩

theorem le_of_isCharBoundary {text : String} {offset : Nat}
    (boundary : isCharBoundary text offset = true) : offset ≤ text.utf8ByteSize := by
  obtain ⟨before, after, split, length⟩ := isCharBoundary_iff.1 boundary
  rw [utf8ByteSize_eq, split, utf8Length_append, length]
  exact Nat.le_add_right _ _

/-- An ASCII byte is a character of its own, so there is a boundary on either side of it. -/
theorem isCharBoundary_of_ascii {text : String} {offset : Nat} {byte : UInt8}
    (here : (utf8 text)[offset]? = some byte) (ascii : byte.toNat < 128) :
    isCharBoundary text offset = true ∧ isCharBoundary text (offset + 1) = true := by
  have inFront : isCharBoundary text offset = true := by
    simp [isCharBoundary, here, (continuesChar_eq_false_iff byte).2 (.inl ascii)]
  refine ⟨inFront, ?_⟩
  obtain ⟨before, after, split, length⟩ := isCharBoundary_iff.1 inFront
  have begins := utf8_getElem?_add split 0
  rw [Nat.add_zero, length, here] at begins
  cases after with
  | nil => cases begins
  | cons char rest =>
      have width := String.length_utf8EncodeChar char
      rcases utf8EncodeChar_cases char with ⟨-, code⟩ | ⟨-, first, others, code, large, -⟩
      · rw [code, List.length_singleton] at width
        refine isCharBoundary_iff.2 ⟨before ++ [char], rest, by simp [split], ?_⟩
        rw [utf8Length_append, utf8Length, utf8Length, ← width, length]
      · rw [encode_cons, code, List.cons_append, List.getElem?_cons_zero, Option.some.injEq]
          at begins
        rw [begins] at ascii
        omega

/-- The boundaries of a text are its valid positions. -/
theorem isCharBoundary_iff_isValid {text : String} {offset : Nat} :
    isCharBoundary text offset = true ↔ String.Pos.Raw.IsValid text ⟨offset⟩ := by
  rw [isCharBoundary_iff, String.Pos.Raw.isValid_iff_exists_append]
  constructor
  · intro cut
    obtain ⟨before, after, split, length⟩ := cut
    refine ⟨String.ofList before, String.ofList after, ?_, ?_⟩
    · rw [← String.ofList_append, ← split, String.ofList_toList]
    · rw [String.Pos.Raw.ext_iff, String.byteIdx_rawEndPos, utf8ByteSize_eq, String.toList_ofList,
        length]
  · intro cut
    obtain ⟨before, after, split, length⟩ := cut
    refine ⟨before.toList, after.toList, by rw [split, String.toList_append], ?_⟩
    rw [← utf8ByteSize_eq, ← String.byteIdx_rawEndPos, ← length]

/-- A slice between two boundaries is made of the characters between them. -/
theorem slice?_eq_some {text : String} {before piece after : List Char}
    (split : text.toList = before ++ (piece ++ after)) :
    slice? text (utf8Length before) (utf8Length before + utf8Length piece) =
      some (String.ofList piece) := by
  have first : isCharBoundary text (utf8Length before) = true :=
    isCharBoundary_iff.2 ⟨before, piece ++ after, split, rfl⟩
  have last : isCharBoundary text (utf8Length before + utf8Length piece) = true :=
    isCharBoundary_iff.2 ⟨before ++ piece, after, by rw [split, List.append_assoc],
      utf8Length_append before piece⟩
  have between : (utf8 text).extract (utf8Length before) (utf8Length before + utf8Length piece) =
      encode piece := by
    rw [List.extract_eq_take_drop, utf8_drop split, Nat.add_sub_cancel_left, encode_append,
      ← length_encode, List.take_left]
  have bytes : ByteArray.mk (encode piece).toArray = (String.ofList piece).toByteArray := by
    rw [String.toByteArray_ofList, List.utf8Encode, ← List.data_toByteArray]
    rfl
  rw [slice?, if_pos (by simp [first, last]), between, bytes, String.fromUTF8?,
    dif_pos (String.isValidUTF8 _)]
  rfl

/-- Offsets that a text can be cut at: in order, within the text and between characters. -/
structure Cuttable (text : String) (first last : Nat) : Prop where
  ordered : first ≤ last
  within : last ≤ text.utf8ByteSize
  first_boundary : isCharBoundary text first = true
  last_boundary : isCharBoundary text last = true

theorem Cuttable.of_boundaries {text : String} {first last : Nat} (ordered : first ≤ last)
    (firstBoundary : isCharBoundary text first = true)
    (lastBoundary : isCharBoundary text last = true) : Cuttable text first last :=
  ⟨ordered, le_of_isCharBoundary lastBoundary, firstBoundary, lastBoundary⟩

/-- There is a slice exactly between two boundaries in order. -/
theorem isSome_slice?_iff {text : String} {first last : Nat} :
    (slice? text first last).isSome = true ↔ Cuttable text first last := by
  constructor
  · intro cut
    rw [slice?] at cut
    split at cut
    · next between =>
        simp only [Bool.and_eq_true, decide_eq_true_eq] at between
        exact .of_boundaries between.1.1 between.1.2 between.2
    · cases cut
  · intro cuttable
    obtain ⟨ordered, -, firstBoundary, lastBoundary⟩ := cuttable
    obtain ⟨before, after, split, length⟩ := isCharBoundary_iff.1 firstBoundary
    obtain ⟨upTo, rest, splitLast, lengthLast⟩ := isCharBoundary_iff.1 lastBoundary
    rw [splitLast, List.append_eq_append_iff] at split
    rcases split with ⟨extra, longer, -⟩ | ⟨piece, between, -⟩
    · have same : first = last := by
        rw [longer, utf8Length_append] at length
        omega
      have nothing : text.toList = upTo ++ ([] ++ rest) := splitLast
      have cut := slice?_eq_some nothing
      rw [utf8Length, Nat.add_zero, lengthLast] at cut
      rw [same, cut]
      rfl
    · rw [between, List.append_assoc] at splitLast
      rw [between, utf8Length_append] at lengthLast
      rw [← length, ← lengthLast, slice?_eq_some splitLast]
      rfl

end CriteriaQuery.Text
