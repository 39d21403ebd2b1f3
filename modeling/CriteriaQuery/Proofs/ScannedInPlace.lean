import CriteriaQuery.Proofs.Expressions
import CriteriaQuery.Proofs.IdentifierGrammar
import CriteriaQuery.Proofs.ScanInvariant

/-!
# Expressions scanned in place

The bytes at which a scan stops tell the same as the characters of the text: a byte of a
quote, of a colon or of a name is always a character, never a part of one.  So between two
tokens of a text the cursor stands between two characters, and the scan goes over a token just
as the token is read.

Going on in this way, it puts the same symbols into the statement as the tokens do.
-/

namespace CriteriaQuery

namespace Text

open Statement (colonByte quoteByte isWordByte nameLength)
open Wire (utf8)

/-- An ASCII byte is that of its own character. -/
theorem toNat_of_mem_utf8EncodeChar {char : Char} {byte : UInt8}
    (inside : byte ∈ String.utf8EncodeChar char) (ascii : byte.toNat < 128) :
    char.toNat = byte.toNat := by
  rcases utf8EncodeChar_cases char with ⟨small, code⟩ | ⟨-, first, rest, code, large, continued⟩
  · rw [code, List.mem_singleton] at inside
    rw [inside, UInt8.toNat_ofNat']
    omega
  · rw [code, List.mem_cons] at inside
    rcases inside with isFirst | later
    · rw [isFirst] at ascii
      omega
    · have beyond := (continuesChar_iff byte).1 (continued byte later)
      omega

/-- An ASCII byte among the bytes of characters is a character among them. -/
theorem mem_of_mem_encode {chars : List Char} {char : Char} {byte : UInt8}
    (code : byte.toNat = char.toNat) (ascii : byte.toNat < 128) (inside : byte ∈ encode chars) :
    char ∈ chars := by
  obtain ⟨other, member, here⟩ := List.mem_flatMap.1 inside
  have same : other = char := Char.toNat_inj.1 ((toNat_of_mem_utf8EncodeChar here ascii).trans code)
  exact same ▸ member

/-- Only a colon begins with the byte of a colon. -/
theorem head?_of_encode {chars : List Char} (colon : (encode chars)[0]? = some colonByte) :
    chars.head? = some ':' := by
  cases chars with
  | nil => cases colon
  | cons char rest =>
      have inside : colonByte ∈ encode [char] := by
        have positive : 0 < (encode [char]).length := by
          rw [length_encode, utf8Length]
          exact Nat.add_pos_left char.utf8Size_pos _
        rw [← List.singleton_append, encode_append, List.getElem?_append_left positive] at colon
        exact List.mem_of_getElem? colon
      have same : ':' ∈ [char] := mem_of_mem_encode rfl (by decide) inside
      rw [List.head?_cons, List.mem_singleton.1 same]

theorem isWordByte_ofNat : ∀ code < 128,
    isWordByte (UInt8.ofNat code) = isWordChar (Char.ofNat code) := by
  decide +kernel

theorem toNat_lt_of_isWordChar {char : Char} (word : isWordChar char = true) :
    char.toNat < 128 := by
  have below {last : Char} (bounded : char ≤ last) (ascii : last.toNat < 128) :
      char.toNat < 128 :=
    Nat.lt_of_le_of_lt (UInt32.le_iff_toNat_le.1 (Char.le_def.1 bounded)) ascii
  rcases (isWordChar_iff char).1 word with (upper | lower) | digit | underscore
  · exact below upper.2 (by decide)
  · exact below lower.2 (by decide)
  · exact below digit.2 (by decide)
  · rw [underscore]
    decide

/-- A character may stand in a name exactly if the first of its bytes may, and then it has no
other. -/
theorem isWordByte_utf8EncodeChar (char : Char) :
    ∃ first rest, String.utf8EncodeChar char = first :: rest ∧
      isWordByte first = isWordChar char ∧ (isWordChar char = true → rest = []) := by
  rcases utf8EncodeChar_cases char with ⟨small, code⟩ | ⟨beyond, first, rest, code, large, -⟩
  · refine ⟨_, [], code, ?_, fun _ => rfl⟩
    rw [isWordByte_ofNat _ small, Char.ofNat_toNat]
  · have noWord : isWordChar char = false := by
      rw [Bool.eq_false_iff]
      intro word
      exact absurd (toNat_lt_of_isWordChar word) (Nat.not_lt_of_le beyond)
    refine ⟨first, rest, code, ?_, fun word => absurd word (by simp [noWord])⟩
    rw [noWord, Bool.eq_false_iff]
    intro word
    have ascii := ascii_of_isWordByte word
    omega

/-- The bytes of a name that ends are taken as they stand. -/
theorem takeWhile_encode {name rest : List Char}
    (word : ∀ char ∈ name, isWordChar char = true) (ends : EndsRun isWordChar rest) :
    (encode (name ++ rest)).takeWhile isWordByte = encode name := by
  have bytes : ∀ byte ∈ encode name, isWordByte byte = true := by
    intro byte inside
    obtain ⟨char, member, here⟩ := List.mem_flatMap.1 inside
    obtain ⟨first, others, code, same, alone⟩ := isWordByte_utf8EncodeChar char
    rw [code, alone (word char member), List.mem_singleton] at here
    rw [here, same, word char member]
  rw [encode_append, List.takeWhile_append_of_pos bytes]
  cases rest with
  | nil => simp
  | cons char more =>
      obtain ⟨first, others, code, same, -⟩ := isWordByte_utf8EncodeChar char
      rw [ends char more rfl] at same
      simp [code, same]

section Colon

variable {text : String} {before rest : List Char}

theorem utf8_colon (split : text.toList = before ++ ':' :: rest) :
    (utf8 text)[utf8Length before]? = some colonByte :=
  utf8_getElem?_add split 0

/-- A colon behind which there is none is no cast. -/
theorem utf8_single (split : text.toList = before ++ ':' :: rest) (single : rest.head? ≠ some ':') :
    (utf8 text)[utf8Length before + 1]? ≠ some colonByte := by
  rw [utf8_getElem?_add split 1]
  intro colon
  exact single (head?_of_encode colon)

/-- The name behind a colon has as many bytes as its characters have. -/
theorem nameLength_eq {name : List Char}
    (split : text.toList = before ++ ':' :: (name ++ rest))
    (word : ∀ char ∈ name, isWordChar char = true) (ends : EndsRun isWordChar rest) :
    nameLength text (utf8Length before + 1) = utf8Length name := by
  have behind : text.toList = (before ++ [':']) ++ (name ++ rest) := by
    rw [split, List.append_assoc, List.singleton_append]
  have offset : utf8Length before + 1 = utf8Length (before ++ [':']) := by
    rw [utf8Length_append]
    rfl
  rw [nameLength, offset, utf8_drop behind, takeWhile_encode word ends, length_encode]

end Colon

end Text

namespace Statement

open Wire (utf8)

variable {parameters : OrderedMap String Value} {text : String} {cursor next : Cursor}

/-- A scan goes over bytes that are neither quotes nor, outside quotes, colons. -/
theorem scanFrom_skip {count : Nat}
    (harmless : ∀ distance < count, ∃ byte, (utf8 text)[cursor.index + distance]? = some byte ∧
      byte ≠ quoteByte ∧ (byte = colonByte → cursor.inLiteral = true)) :
    scanFrom parameters text cursor = scanFrom parameters text (cursor.skip count) := by
  induction count with
  | zero => rfl
  | succ count ih =>
      obtain ⟨byte, here, notQuote, notColon⟩ := harmless count (Nat.lt_succ_self count)
      rw [ih fun distance less => harmless distance (Nat.lt_succ_of_lt less)]
      apply scanFrom_of_round
      refine .pass here notQuote ?_
      intro isColon outside
      have inside : cursor.inLiteral = false := outside
      rw [notColon isColon] at inside
      cases inside

/-- The cursor behind characters that are in the statement and others that are not yet. -/
def Cursor.behind (done pending : List Char) (inLiteral : Bool) (statement : Statement) :
    Cursor where
  copied := Text.utf8Length done
  index := Text.utf8Length (done ++ pending)
  inLiteral
  statement

section Behind

variable {done pending rest : List Char} {inLiteral : Bool} {statement : Statement}

theorem skip_behind (middle : List Char) :
    (Cursor.behind done pending inLiteral statement).skip (Text.utf8Length middle) =
      Cursor.behind done (pending ++ middle) inLiteral statement := by
  simp [Cursor.behind, Cursor.skip, Nat.add_assoc]

theorem scanFrom_quote (split : text.toList = done ++ pending ++ '\'' :: rest) :
    scanFrom parameters text (.behind done pending inLiteral statement) =
      scanFrom parameters text (.behind done (pending ++ ['\'']) (!inLiteral) statement) := by
  have here : (utf8 text)[Text.utf8Length (done ++ pending)]? = some quoteByte :=
    Text.utf8_getElem?_add split 0
  rw [scanFrom_of_round (.quote here), ← skip_behind]
  rfl

theorem scanFrom_pass {middle : List Char}
    (split : text.toList = done ++ pending ++ (middle ++ rest))
    (noQuote : '\'' ∉ middle) (noColon : ':' ∈ middle → inLiteral = true) :
    scanFrom parameters text (.behind done pending inLiteral statement) =
      scanFrom parameters text (.behind done (pending ++ middle) inLiteral statement) := by
  rw [← skip_behind]
  apply scanFrom_skip
  intro distance less
  rw [← Text.length_encode] at less
  have here : (Text.encode (middle ++ rest))[distance]? = some (Text.encode middle)[distance] := by
    rw [Text.encode_append, List.getElem?_append_left less, List.getElem?_eq_getElem less]
  have inside := List.getElem_mem less
  refine ⟨_, (Text.utf8_getElem?_add split distance).trans here, ?_, ?_⟩
  · intro isQuote
    exact noQuote (Text.mem_of_mem_encode rfl (by decide) (isQuote ▸ inside))
  · intro isColon
    exact noColon (Text.mem_of_mem_encode rfl (by decide) (isColon ▸ inside))

theorem scanFrom_cast (split : text.toList = done ++ pending ++ ':' :: ':' :: rest) :
    scanFrom parameters text (.behind done pending false statement) =
      scanFrom parameters text (.behind done (pending ++ [':', ':']) false statement) := by
  have again : (utf8 text)[Text.utf8Length (done ++ pending) + 1]? = some colonByte :=
    Text.utf8_getElem?_add split 1
  rw [scanFrom_of_round (.cast rfl (Text.utf8_colon split) again), ← skip_behind]
  rfl

theorem scanFrom_colon (split : text.toList = done ++ pending ++ ':' :: rest)
    (single : rest.head? ≠ some ':') (unnamed : Text.EndsRun Text.isWordChar rest) :
    scanFrom parameters text (.behind done pending false statement) =
      scanFrom parameters text (.behind done (pending ++ [':']) false statement) := by
  have notQuote : colonByte ≠ quoteByte := by decide
  have nothing := Text.nameLength_eq split (List.forall_mem_nil _) unnamed
  rw [scanFrom_of_round (.pass (Text.utf8_colon split) notQuote fun _ _ =>
    ⟨Text.utf8_single split single, nothing⟩), ← skip_behind]
  rfl

section Reference

variable {name : List Char} (split : text.toList = done ++ pending ++ ':' :: (name ++ rest))
  (nonempty : name ≠ []) (word : ∀ char ∈ name, Text.isWordChar char = true)
  (ends : Text.EndsRun Text.isWordChar rest)

include split nonempty word ends

/-- At a reference its value is looked up and what is pending is cut out. -/
theorem scanRound_behind :
    scanRound parameters text (.behind done pending false statement) =
      match parameters.get? (String.ofList name) with
      | none => .error (.failed (.configuration (.unboundParameter (String.ofList name))))
      | some value =>
          .ok (.behind (done ++ pending ++ ':' :: name) [] false
            ((statement.push (String.ofList pending)).append (valueSymbols value))) := by
  have behind : text.toList = (done ++ pending ++ [':']) ++ (name ++ rest) := by
    rw [split, List.append_assoc _ [':'], List.singleton_append]
  have single : (name ++ rest).head? ≠ some ':' := by
    cases name with
    | nil => exact absurd rfl nonempty
    | cons first more =>
        intro colon
        rw [List.cons_append, List.head?_cons, Option.some.injEq] at colon
        exact absurd (word first List.mem_cons_self) (by rw [colon]; decide)
  have length := Text.nameLength_eq split word ends
  have named : nameLength text (Text.utf8Length (done ++ pending) + 1) ≠ 0 := by
    rw [length]
    cases name with
    | nil => exact absurd rfl nonempty
    | cons first more => exact Nat.ne_of_gt (Nat.add_pos_left first.utf8Size_pos _)
  have nameCut : Text.slice? text (Text.utf8Length (done ++ pending) + 1)
      (Text.utf8Length (done ++ pending) + 1 + Text.utf8Length name) =
        some (String.ofList name) := by
    have offset : Text.utf8Length (done ++ pending) + 1 =
        Text.utf8Length (done ++ pending ++ [':']) := by
      rw [Text.utf8Length_append _ [':']]
      rfl
    rw [offset]
    exact Text.slice?_eq_some behind
  have passedCut : Text.slice? text (Text.utf8Length done) (Text.utf8Length (done ++ pending)) =
      some (String.ofList pending) := by
    rw [List.append_assoc] at split
    rw [Text.utf8Length_append]
    exact Text.slice?_eq_some split
  have round : scanRound parameters text (.behind done pending false statement) =
      putReference parameters text (.behind done pending false statement)
        (nameLength text (Text.utf8Length (done ++ pending) + 1)) :=
    scanRound_reference rfl (Text.utf8_colon split) (Text.utf8_single split single) named
  rw [round, length, putReference]
  simp only [Cursor.behind, nameCut]
  cases bound : parameters.get? (String.ofList name) with
  | none => rfl
  | some value =>
      have last : Text.utf8Length (done ++ pending ++ ':' :: name) =
          Text.utf8Length (done ++ pending) + 1 + Text.utf8Length name := by
        rw [Text.utf8Length_append, Text.utf8Length, ← Nat.add_assoc]
        rfl
      simp only [passedCut, Cursor.put, List.append_nil, last]

end Reference

/-- At the end of the text what is pending is put into the statement. -/
theorem scanFrom_end (split : text.toList = done ++ pending) :
    scanFrom parameters text (.behind done pending inLiteral statement) =
      .ok (statement.push (String.ofList pending)) := by
  have size : text.utf8ByteSize = Text.utf8Length done + Text.utf8Length pending := by
    rw [Text.utf8ByteSize_eq, split, Text.utf8Length_append]
  have atEnd : ¬(Cursor.behind done pending inLiteral statement).index < text.utf8ByteSize := by
    rw [size, ← Text.utf8Length_append]
    exact Nat.lt_irrefl _
  have whole : text.toList = done ++ (pending ++ []) := by rw [split, List.append_nil]
  have cut : Text.slice? text (Cursor.behind done pending inLiteral statement).copied
      text.utf8ByteSize = some (String.ofList pending) := by
    rw [size]
    exact Text.slice?_eq_some whole
  rw [scanFrom, if_neg atEnd, cut]
  rfl

end Behind

variable (parameters) in
/-- What is still to be made of an expression: pending characters, and tokens behind them. -/
def remaining (statement : Statement) (pending : List Char) (tokens : List Token) :
    Except QueryError Statement :=
  (tokens.mapM (tokenSymbols parameters)).map fun places =>
    statement.append (pending.map .char ++ places.flatten)

section Remaining

variable {pending : List Char} {statement : Statement} {tokens : List Token}

theorem remaining_nil :
    remaining parameters statement pending [] = .ok (statement.push (String.ofList pending)) := by
  simp [remaining, push, chars, Except.map, pure, Except.pure]

/-- The characters of a token that is copied become pending. -/
theorem remaining_copied {token : Token} (copied : token.name? = none) :
    remaining parameters statement pending (token :: tokens) =
      remaining parameters statement (pending ++ token.chars) tokens := by
  have symbols := (tokenSymbols_eq_ok_iff parameters).2 (.copied copied)
  rw [remaining, remaining, List.mapM_cons, symbols]
  cases tokens.mapM (tokenSymbols parameters) with
  | error error => rfl
  | ok places =>
      have joined : statement.append
            (pending.map Symbol.char ++ (token.chars.map Symbol.char :: places).flatten) =
          statement.append ((pending ++ token.chars).map .char ++ places.flatten) := by simp
      exact congrArg Except.ok joined

/-- A reference is put behind what is pending, or stops. -/
theorem remaining_reference (name : List Char) :
    remaining parameters statement pending (.reference name :: tokens) =
      match parameters.get? (String.ofList name) with
      | none => .error (.configuration (.unboundParameter (String.ofList name)))
      | some value =>
          remaining parameters
            ((statement.push (String.ofList pending)).append (valueSymbols value)) [] tokens := by
  rw [remaining, List.mapM_cons, tokenSymbols]
  cases parameters.get? (String.ofList name) with
  | none => rfl
  | some value =>
      simp only [remaining]
      cases tokens.mapM (tokenSymbols parameters) with
      | error error => rfl
      | ok places =>
          have joined : statement.append
                (pending.map Symbol.char ++ (valueSymbols value :: places).flatten) =
              ((statement.push (String.ofList pending)).append (valueSymbols value)).append
                places.flatten := by simp [append, push, chars]
          exact congrArg Except.ok joined

end Remaining

/-- Between tokens a scan makes of the rest what its tokens make of it. -/
theorem scanFrom_of_reads {chars : List Char} {tokens : List Token}
    (read : Token.Reads chars tokens) {done pending : List Char} {statement : Statement}
    (split : text.toList = done ++ pending ++ chars) :
    scanFrom parameters text (.behind done pending false statement) =
      (remaining parameters statement pending tokens).mapError .failed := by
  induction read generalizing done pending statement with
  | nil =>
      rw [List.append_nil] at split
      rw [scanFrom_end split, remaining_nil]
      rfl
  | @quoted body rest tokens unquoted continued ih =>
      have opened : text.toList = done ++ (pending ++ ['\'']) ++ (body ++ '\'' :: rest) := by
        simp [split]
      have inside : text.toList = done ++ (pending ++ ['\''] ++ body) ++ '\'' :: rest := by
        simp [split]
      have closed : text.toList = done ++ (pending ++ ['\''] ++ body ++ ['\'']) ++ rest := by
        simp [split]
      rw [scanFrom_quote split, Bool.not_false, scanFrom_pass opened unquoted fun _ => rfl,
        scanFrom_quote inside, Bool.not_true, ih closed, remaining_copied rfl]
      simp [Token.chars]
  | @unclosed body unquoted =>
      have opened : text.toList = done ++ (pending ++ ['\'']) ++ (body ++ []) := by simp [split]
      have ended : text.toList = done ++ (pending ++ ['\''] ++ body) := by simp [split]
      rw [scanFrom_quote split, Bool.not_false, scanFrom_pass opened unquoted fun _ => rfl,
        scanFrom_end ended, remaining_copied rfl, remaining_nil]
      simp [Token.chars, Except.mapError]
  | cast continued ih =>
      rw [scanFrom_cast split, ih (by simp [split]), remaining_copied rfl]
      rfl
  | @reference name rest tokens nonempty word ends continued ih =>
      have unfinished : Text.utf8Length (done ++ pending) < text.utf8ByteSize :=
        lt_utf8ByteSize (Text.utf8_colon split)
      rw [scanFrom_of_lt unfinished, scanRound_behind split nonempty word ends,
        remaining_reference]
      cases parameters.get? (String.ofList name) with
      | none => rfl
      | some value => exact ih (by simp [split])
  | colon single unnamed continued ih =>
      rw [scanFrom_colon split single unnamed, ih (by simp [split]), remaining_copied rfl]
      rfl
  | @plain char rest tokens notQuote notColon continued ih =>
      have single : text.toList = done ++ pending ++ ([char] ++ rest) := split
      have noQuote : '\'' ∉ [char] := fun inside => notQuote (List.mem_singleton.1 inside).symm
      have noColon : ':' ∉ [char] := fun inside => notColon (List.mem_singleton.1 inside).symm
      rw [scanFrom_pass single noQuote fun inside => absurd inside noColon,
        ih (by simp [split]), remaining_copied rfl]
      rfl

/-- In place, the same is put behind a statement as by way of the tokens. -/
theorem pushInPlace_eq (before : Statement) :
    pushInPlace parameters text before =
      (before.pushExpression parameters text).mapError .failed := by
  have split : text.toList = [] ++ [] ++ text.toList := rfl
  have tokens : remaining parameters before [] (Token.scan text.toList) =
      before.pushExpression parameters text := by
    rw [remaining, pushExpression, expressionSymbols]
    cases (Token.scan text.toList).mapM (tokenSymbols parameters) with
    | error error => rfl
    | ok places => rfl
  rw [← tokens, ← scanFrom_of_reads (Token.reads_scan text.toList) split]
  rfl

/-- An expression is put into a statement in place, whatever characters it has.

In every round the text copied before ends at a boundary between two characters, which the
cursor has not passed, and the cursor is within the text.  Around a colon and behind its name
there are boundaries too, so the name, the text in front of a reference and the text that is
left at the end can be cut out.  A round within the text is never out of place and leads
further.  So the scan stops after at most as many rounds as the text has bytes, at the end of
the text or at a reference without a value, and what it makes is what the tokens of the text
make. -/
theorem pushInPlace_safe (parameters : OrderedMap String Value) (text : String)
    (before : Statement) :
    (∀ count cursor, Reaches parameters text (.start before) count cursor →
      pushInPlace parameters text before = scanFrom parameters text cursor ∧
      count ≤ cursor.index ∧ cursor.copied ≤ cursor.index ∧ cursor.index ≤ text.utf8ByteSize ∧
      Text.Cuttable text cursor.copied text.utf8ByteSize ∧
      ((utf8 text)[cursor.index]? = some colonByte →
        Text.Cuttable text cursor.copied cursor.index ∧
        Text.Cuttable text (cursor.index + 1)
          (cursor.index + 1 + nameLength text (cursor.index + 1))) ∧
      (cursor.index < text.utf8ByteSize →
        scanRound parameters text cursor ≠ .error .outOfPlace ∧
        ∀ next, scanRound parameters text cursor = .ok next → cursor.index < next.index)) ∧
    (∃ rounds last, rounds ≤ text.utf8ByteSize ∧
      Reaches parameters text (.start before) rounds last ∧
      (last.index = text.utf8ByteSize ∨ ∃ name, parameters.get? name = none ∧
        scanRound parameters text last =
          .error (.failed (.configuration (.unboundParameter name))))) ∧
    pushInPlace parameters text before =
      (before.pushExpression parameters text).mapError .failed := by
  refine ⟨?_, ?_, pushInPlace_eq before⟩
  · intro count cursor reached
    obtain ⟨inPlace, counted⟩ := inPlace_of_reaches reached
    refine ⟨scanFrom_of_reaches reached, counted, inPlace.copied_le, inPlace.index_le,
      inPlace.cuttable_left, fun colon => ⟨inPlace.cuttable_passed colon, cuttable_name colon⟩, ?_⟩
    intro unfinished
    exact ⟨inPlace.not_outOfPlace unfinished, fun next went => index_lt_of_scanRound went⟩
  · obtain ⟨rounds, last, reached, stops⟩ := exists_reaches_last .start
    obtain ⟨inPlace, counted⟩ := inPlace_of_reaches reached
    exact ⟨rounds, last, Nat.le_trans counted inPlace.index_le, reached, stops⟩

end Statement

end CriteriaQuery
