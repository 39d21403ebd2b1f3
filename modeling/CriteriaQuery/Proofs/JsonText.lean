import CriteriaQuery.Json.Reading
import CriteriaQuery.Json.Writing

/-!
# Written JSON is read back

Every JSON value without floating-point numbers is written as a text of which the grammar
makes one document, given here as a function of the value: an integer has its digits, and a
string its characters, of which the controls without a short escape are written as units.

A text is read from the left and with a bound on the recursion.  What is behind a value
begins with a comma or a closing bracket, if there is anything, so no number runs on; and
the bound is met as soon as it is twice the length of the text.
-/

namespace CriteriaQuery.Json

/-- Values without floating-point numbers. -/
inductive FloatFree : Json → Prop where
  | null : FloatFree .null
  | bool (flag : Bool) : FloatFree (.bool flag)
  | int (number : Int) : FloatFree (.int number)
  | string (text : String) : FloatFree (.string text)
  | array (items : List Json) (each : ∀ item ∈ items, FloatFree item) : FloatFree (.array items)
  | object (fields : List (String × Json)) (each : ∀ field ∈ fields, FloatFree field.2) :
      FloatFree (.object fields)

/-- What may stand behind a value: nothing, or a comma or a closing bracket first. -/
def EndsValue (rest : List Char) : Prop :=
  ∀ char ∈ rest.head?, char = ',' ∨ char = ']' ∨ char = '\x7d'

/-- The digits of a number, most significant first. -/
def digits (number : Nat) : List Nat :=
  (Nat.toDigits 10 number).map fun char => char.toNat - '0'.toNat

/-- An integer as it is written. -/
def intLiteral (number : Int) : NumberLiteral where
  negative := decide (number < 0)
  whole := digits number.natAbs
  fraction := []
  exponent := none

theorem digitsValue_digits (number : Nat) : digitsValue (digits number) = number := by
  have read := Nat.ofDigitChars_toDigits (b := 10) (n := number) (by decide) (by decide)
  simp only [digitsValue, digits, List.foldl_map]
  simpa only [Nat.ofDigitChars, Nat.mul_comm] using read

/-- The numeral of a positive number does not begin with a zero. -/
theorem exists_toDigits {number : Nat} (positive : 0 < number) :
    ∃ first rest, Nat.toDigits 10 number = first :: rest ∧ first ≠ '0' := by
  induction number using Nat.strongRecOn with
  | ind number ih =>
      by_cases small : number < 10
      · have nonzero : ∀ digit < 10, 0 < digit → Nat.digitChar digit ≠ '0' := by decide
        exact ⟨_, [], Nat.toDigits_of_lt_base small, nonzero number small positive⟩
      · have large : 10 ≤ number := Nat.le_of_not_lt small
        rcases ih (number / 10) (by omega) (by omega) with ⟨first, rest, written, notZero⟩
        refine ⟨first, rest ++ [(number % 10).digitChar], ?_, notZero⟩
        rw [Nat.toDigits_of_base_le (by decide) large, written, List.cons_append]

namespace Document

/-- Digits are read up to what is no digit. -/
theorem takeDigits_append {chars rest : List Char}
    (digit : ∀ char ∈ chars, char.isDigit = true)
    (stops : ∀ char ∈ rest.head?, char.isDigit = false) :
    takeDigits (chars ++ rest) = (chars.map fun char => char.toNat - '0'.toNat, rest) := by
  induction chars with
  | nil =>
      cases rest with
      | nil => rfl
      | cons char more => simp [takeDigits, stops char rfl]
  | cons char more ih =>
      rw [List.cons_append, takeDigits, if_pos (digit char List.mem_cons_self),
        ih fun other inside => digit other (List.mem_cons_of_mem _ inside)]
      rfl

theorem takeWhole_append (number : Nat) {rest : List Char} (ends : EndsValue rest) :
    takeWhole (Nat.toDigits 10 number ++ rest) = some (digits number, rest) := by
  have digit : ∀ char ∈ Nat.toDigits 10 number, char.isDigit = true :=
    fun char inside => Nat.isDigit_of_mem_toDigits (by decide) (by decide) inside
  have stops : ∀ char ∈ rest.head?, char.isDigit = false := by
    intro char first
    rcases ends char first with rfl | rfl | rfl <;> rfl
  have read := takeDigits_append digit stops
  by_cases positive : 0 < number
  · rcases exists_toDigits positive with ⟨first, more, written, notZero⟩
    simp only [digits, written, List.cons_append] at read ⊢
    rw [takeWhole, takeSomeDigits, read]
    · rfl
    · intro after same
      exact notZero (List.cons.inj same).1
  · have zero : number = 0 := by omega
    subst zero
    rfl

/-- An integer is read as it was written. -/
theorem takeNumber_intText (number : Int) {rest : List Char} (ends : EndsValue rest) :
    takeNumber ((intText number).toList ++ rest) = some (intLiteral number, rest) := by
  have fraction : takeFraction rest = some ([], rest) := by
    cases rest with
    | nil => rfl
    | cons char more => rcases ends char rfl with rfl | rfl | rfl <;> rfl
  have exponent : takeExponent rest = some (none, rest) := by
    cases rest with
    | nil => rfl
    | cons char more => rcases ends char rfl with rfl | rfl | rfl <;> rfl
  have unsigned (negative : Bool) :
      takeUnsigned negative (Nat.toDigits 10 number.natAbs ++ rest) =
        some ({ negative, whole := digits number.natAbs, fraction := [], exponent := none },
          rest) := by
    simp only [takeUnsigned, takeWhole_append _ ends, fraction, exponent, Option.bind_eq_bind,
      Option.bind_some]
    rfl
  by_cases below : number < 0
  · have written : (intText number).toList = '-' :: Nat.toDigits 10 number.natAbs := by
      simp [intText, below, Nat.repr]
    rw [written, List.cons_append, takeNumber, unsigned, intLiteral]
    simp [below]
  · have written : (intText number).toList = Nat.toDigits 10 number.natAbs := by
      simp [intText, below, Nat.repr]
    rw [written, takeNumber.eq_2, unsigned, intLiteral]
    · simp [below]
    · intro after same
      have digit : ∀ char ∈ Nat.toDigits 10 number.natAbs, char.isDigit = true :=
        fun char inside => Nat.isDigit_of_mem_toDigits (by decide) (by decide) inside
      cases first : Nat.toDigits 10 number.natAbs with
      | nil => exact absurd first Nat.toDigits_ne_nil
      | cons char more =>
          rw [first, List.cons_append] at same
          rw [first, (List.cons.inj same).1] at digit
          exact absurd (digit '-' List.mem_cons_self) (by decide)

end Document

/-- Whether a character is written as a unit: a control without a short escape. -/
def isUnit (char : Char) : Bool :=
  decide (char.toNat < 0x20 ∧ char ∉ ['\x08', '\x0c', '\n', '\r', '\t'])

/-- A character as it is written in a string. -/
def piece (char : Char) : StringPiece :=
  if isUnit char then .unit char.toNat else .char char

/-- A text as it is written. -/
def pieces (text : String) : List StringPiece :=
  text.toList.map piece

namespace Document

/-- A character of a string is read as it was written. -/
theorem takeString_escapedChar (char : Char) (rest : List Char) :
    takeString (escapedChar char ++ rest) = (takeString rest).map (consPiece (piece char)) := by
  simp only [escapedChar]
  split
  · rfl
  · rfl
  · rfl
  · rfl
  · rfl
  · rfl
  · rfl
  · next quote backslash b f n r t =>
    split
    · next control =>
      have unit : isUnit char = true := by
        simp only [isUnit, control, true_and, List.mem_cons, List.not_mem_nil, or_false, not_or,
          decide_eq_true_eq]
        exact ⟨b, f, n, r, t⟩
      have read : ∀ number < 0x20, ∃ first second third fourth,
          Text.hexDigits 4 number = [first, second, third, fourth] ∧
            unitOf? first second third fourth = some number := by
        intro number small
        exact ⟨_, _, _, _, rfl, by revert number; decide⟩
      rcases read char.toNat control with ⟨first, second, third, fourth, written, value⟩
      simp only [written, List.cons_append, List.nil_append, takeString, value, piece, unit]
      rfl
    · next notControl =>
      have unit : isUnit char = false := by simp [isUnit, notControl]
      have plain : ¬(char.toNat < 0x20 ∨ char = '\\') := fun either =>
        either.elim notControl backslash
      rw [List.singleton_append, takeString.eq_5 _ _ quote
        (fun _ _ _ _ _ same _ => backslash same) (fun _ _ same _ => backslash same), if_neg plain,
        piece, unit]
      rfl

/-- A string is read as it was written. -/
theorem takeString_append (chars rest : List Char) :
    takeString (chars.flatMap escapedChar ++ '"' :: rest) = some (chars.map piece, rest) := by
  induction chars with
  | nil => rfl
  | cons char more ih =>
      rw [List.flatMap_cons, List.append_assoc, takeString_escapedChar, ih]
      rfl

end Document

mutual

/-- The document that a value is written as.  Floating-point numbers are left out: only
those that are no numbers have this one. -/
def document : Json → Document
  | .null => .null
  | .bool flag => .bool flag
  | .int number => .number (intLiteral number)
  | .float _ => .null
  | .string text => .string (pieces text)
  | .array items => .array (documentItems items)
  | .object fields => .object (documentFields fields)

/-- The documents of array items. -/
def documentItems : List Json → List Document
  | [] => []
  | item :: rest => document item :: documentItems rest

/-- The documents of object fields. -/
def documentFields : List (String × Json) → List (List StringPiece × Document)
  | [] => []
  | (key, value) :: rest => (pieces key, document value) :: documentFields rest

end

theorem documentItems_eq (items : List Json) : documentItems items = items.map document := by
  induction items with
  | nil => rfl
  | cons item rest ih => rw [documentItems, ih, List.map_cons]

theorem documentFields_eq (fields : List (String × Json)) :
    documentFields fields = fields.map fun field => (pieces field.1, document field.2) := by
  induction fields with
  | nil => rfl
  | cons field rest ih => rw [documentFields, ih, List.map_cons]

namespace Document

section Steps

variable {fuel : Nat} {text after rest : List Char} {item : Document}

theorem takeItems_last (read : takeValue fuel text = some (item, ']' :: rest)) :
    takeItems (fuel + 1) text = some ([item], rest) := by
  rw [takeItems, read]
  rfl

theorem takeItems_next {items : List Document}
    (read : takeValue fuel text = some (item, ',' :: after))
    (continued : takeItems fuel after = some (items, rest)) :
    takeItems (fuel + 1) text = some (item :: items, rest) := by
  have comma : skipBlanks (',' :: after) = ',' :: after := rfl
  simp [takeItems, read, comma, continued]

variable {keyText valueText : List Char} {key : List StringPiece}
  (opened : takeString keyText = some (key, ':' :: valueText))

include opened

theorem takeFields_last (read : takeValue fuel valueText = some (item, '\x7d' :: rest)) :
    takeFields (fuel + 1) ('"' :: keyText) = some ([(key, item)], rest) := by
  have quote : skipBlanks ('"' :: keyText) = '"' :: keyText := rfl
  have colon : skipBlanks (':' :: valueText) = ':' :: valueText := rfl
  have brace : skipBlanks ('\x7d' :: rest) = '\x7d' :: rest := rfl
  simp [takeFields, quote, opened, colon, read, brace]

theorem takeFields_next {fields : List (List StringPiece × Document)}
    (read : takeValue fuel valueText = some (item, ',' :: after))
    (continued : takeFields fuel after = some (fields, rest)) :
    takeFields (fuel + 1) ('"' :: keyText) = some ((key, item) :: fields, rest) := by
  have quote : skipBlanks ('"' :: keyText) = '"' :: keyText := rfl
  have colon : skipBlanks (':' :: valueText) = ':' :: valueText := rfl
  have comma : skipBlanks (',' :: after) = ',' :: after := rfl
  simp [takeFields, quote, opened, colon, read, comma, continued]

end Steps

/-- Whether a value is read as it was written, whatever comes behind it. -/
def ReadsBack (json : Json) : Prop :=
  ∀ (fuel : Nat) (rest : List Char), 2 * json.write.length ≤ fuel → EndsValue rest →
    takeValue fuel (json.write ++ rest) = some (json.document, rest)

theorem takeItems_append {items : List Json} (nonempty : items ≠ [])
    (each : ∀ item ∈ items, ReadsBack item) (fuel : Nat)
    (enough : 2 * (writeItems items).length + 1 ≤ fuel) (rest : List Char) :
    takeItems fuel (writeItems items ++ ']' :: rest) = some (documentItems items, rest) := by
  induction items generalizing fuel with
  | nil => exact absurd rfl nonempty
  | cons item others ih =>
      obtain ⟨left, rfl⟩ : ∃ left, fuel = left + 1 := ⟨fuel - 1, by omega⟩
      have reads := each item List.mem_cons_self
      cases others with
      | nil =>
          simp only [writeItems] at enough ⊢
          exact takeItems_last (reads left _ (by omega) (by simp [EndsValue]))
      | cons next more =>
          -- The comma is what pays for the level that reads the other items.
          simp only [writeItems, List.length_append, List.length_cons] at enough ⊢
          have continued := ih (by simp)
            (fun other inside => each other (List.mem_cons_of_mem _ inside)) left (by omega)
          rw [List.append_assoc, List.cons_append]
          exact takeItems_next (reads left _ (by omega) (by simp [EndsValue])) continued

theorem takeFields_append {fields : List (String × Json)} (nonempty : fields ≠ [])
    (each : ∀ field ∈ fields, ReadsBack field.2) (fuel : Nat)
    (enough : 2 * (writeFields fields).length + 1 ≤ fuel) (rest : List Char) :
    takeFields fuel (writeFields fields ++ '\x7d' :: rest) =
      some (documentFields fields, rest) := by
  induction fields generalizing fuel with
  | nil => exact absurd rfl nonempty
  | cons field others ih =>
      rcases field with ⟨key, value⟩
      obtain ⟨left, rfl⟩ : ∃ left, fuel = left + 1 := ⟨fuel - 1, by omega⟩
      have reads : ReadsBack value := each (key, value) List.mem_cons_self
      cases others with
      | nil =>
          simp only [writeFields, List.length_append, List.length_cons] at enough ⊢
          simp only [writeString, List.append_assoc, List.cons_append, List.nil_append]
          exact takeFields_last (takeString_append _ _)
            (reads left _ (by omega) (by simp [EndsValue]))
      | cons next more =>
          simp only [writeFields, List.length_append, List.length_cons] at enough ⊢
          have continued := ih (by simp)
            (fun other inside => each other (List.mem_cons_of_mem _ inside)) left (by omega)
          simp only [writeString, List.append_assoc, List.cons_append, List.nil_append]
          exact takeFields_next (takeString_append _ _)
            (reads left _ (by omega) (by simp [EndsValue])) continued

/-- A numeral begins with a sign or a digit. -/
theorem exists_intText (number : Int) :
    ∃ first more, (intText number).toList = first :: more ∧
      (first = '-' ∨ first.isDigit = true) := by
  by_cases below : number < 0
  · exact ⟨'-', Nat.toDigits 10 number.natAbs, by simp [intText, below, Nat.repr], .inl rfl⟩
  · have written : (intText number).toList = Nat.toDigits 10 number.natAbs := by
      simp [intText, below, Nat.repr]
    cases first : Nat.toDigits 10 number.natAbs with
    | nil => exact absurd first Nat.toDigits_ne_nil
    | cons char more =>
        have inside : char ∈ Nat.toDigits 10 number.natAbs := first ▸ List.mem_cons_self
        exact ⟨char, more, written.trans first,
          .inr (Nat.isDigit_of_mem_toDigits (by decide) (by decide) inside)⟩

theorem skipBlanks_cons {char : Char} (visible : isBlank char = false) (more : List Char) :
    skipBlanks (char :: more) = char :: more := by
  simp [skipBlanks, visible]

theorem isBlank_of_numeral {char : Char} (numeral : char = '-' ∨ char.isDigit = true) :
    isBlank char = false := by
  cases blank : isBlank char with
  | false => rfl
  | true =>
      simp only [isBlank, Bool.or_eq_true, beq_iff_eq] at blank
      rcases blank with ((rfl | rfl) | rfl) | rfl <;> exact absurd numeral (by decide)

/-- What begins with a sign or a digit is read as a number. -/
theorem takeValue_numeral {first : Char} (numeral : first = '-' ∨ first.isDigit = true)
    (fuel : Nat) (more : List Char) :
    takeValue (fuel + 1) (first :: more) =
      (takeNumber (first :: more)).map fun found => (.number found.1, found.2) := by
  rw [takeValue, skipBlanks_cons (isBlank_of_numeral numeral)]
  split
  case h_7 => rfl
  all_goals
    next same =>
      rw [(List.cons.inj same).1] at numeral
      exact absurd numeral (by decide)

/-- An array with items is read item by item. -/
theorem takeValue_items {first : Char} {more rest : List Char} {items : List Document}
    {fuel : Nat} (visible : isBlank first = false) (item : first ≠ ']')
    (read : takeItems fuel (first :: more) = some (items, rest)) :
    takeValue (fuel + 1) ('[' :: first :: more) = some (.array items, rest) := by
  have bracket : skipBlanks ('[' :: first :: more) = '[' :: first :: more := rfl
  simp only [takeValue, bracket, skipBlanks_cons visible]
  split
  · next same => exact absurd (List.cons.inj same).1 item
  · rw [read]
    rfl

/-- An object with fields is read field by field. -/
theorem takeValue_fields {more rest : List Char} {fields : List (List StringPiece × Document)}
    {fuel : Nat} (read : takeFields fuel ('"' :: more) = some (fields, rest)) :
    takeValue (fuel + 1) ('\x7b' :: '"' :: more) = some (.object fields, rest) := by
  have brace : skipBlanks ('\x7b' :: '"' :: more) = '\x7b' :: '"' :: more := rfl
  have quote : skipBlanks ('"' :: more) = '"' :: more := rfl
  simp [takeValue, brace, quote, read]

/-- A written value begins with a character that is neither blank nor the end of an array. -/
theorem exists_write {json : Json} (floatFree : FloatFree json) :
    ∃ first more, json.write = first :: more ∧ isBlank first = false ∧ first ≠ ']' := by
  cases floatFree with
  | null => exact ⟨'n', _, rfl, rfl, by decide⟩
  | bool flag =>
      cases flag with
      | true => exact ⟨'t', _, rfl, rfl, by decide⟩
      | false => exact ⟨'f', _, rfl, rfl, by decide⟩
  | int number =>
      rcases exists_intText number with ⟨first, more, written, numeral⟩
      refine ⟨first, more, written, isBlank_of_numeral numeral, ?_⟩
      rintro rfl
      exact absurd numeral (by decide)
  | string text => exact ⟨'"', _, rfl, rfl, by decide⟩
  | array items each => exact ⟨'[', _, rfl, rfl, by decide⟩
  | object fields each => exact ⟨'\x7b', _, rfl, rfl, by decide⟩

/-- A bound that is met is not used up. -/
theorem exists_fuel {json : Json} (floatFree : FloatFree json) {fuel : Nat}
    (enough : 2 * json.write.length ≤ fuel) : ∃ left, fuel = left + 1 := by
  rcases exists_write floatFree with ⟨first, more, written, -, -⟩
  rw [written, List.length_cons] at enough
  exact ⟨fuel - 1, by omega⟩

/-- Every value without floating-point numbers is read as it was written. -/
theorem readsBack {json : Json} (floatFree : FloatFree json) : ReadsBack json := by
  induction floatFree with
  | null =>
      intro fuel rest enough ends
      rcases exists_fuel .null enough with ⟨left, rfl⟩
      rfl
  | bool flag =>
      intro fuel rest enough ends
      rcases exists_fuel (.bool flag) enough with ⟨left, rfl⟩
      cases flag with
      | true => rfl
      | false => rfl
  | int number =>
      intro fuel rest enough ends
      rcases exists_fuel (.int number) enough with ⟨left, rfl⟩
      rcases exists_intText number with ⟨first, more, written, numeral⟩
      have read := takeNumber_intText number ends
      rw [written, List.cons_append] at read
      rw [write, written, List.cons_append, takeValue_numeral numeral, read]
      rfl
  | string text =>
      intro fuel rest enough ends
      rcases exists_fuel (.string text) enough with ⟨left, rfl⟩
      have quote (inner : List Char) : skipBlanks ('"' :: inner) = '"' :: inner := rfl
      simp [write, writeString, takeValue, quote, takeString_append, document, pieces]
  | array items each ih =>
      intro fuel rest enough ends
      rcases exists_fuel (.array items each) enough with ⟨left, rfl⟩
      simp only [write, List.length_append, List.length_cons] at enough
      cases items with
      | nil => rfl
      | cons item others =>
          have read := takeItems_append (List.cons_ne_nil item others) ih left (by omega) rest
          obtain ⟨first, more, written, visible, noEnd⟩ :=
            exists_write (each item List.mem_cons_self)
          obtain ⟨more, begun⟩ : ∃ more, writeItems (item :: others) = first :: more := by
            cases others with
            | nil => exact ⟨_, written⟩
            | cons next last => exact ⟨_, by rw [writeItems, written, List.cons_append]⟩
          rw [begun, List.cons_append] at read
          simp only [write, begun, List.cons_append, List.append_assoc, List.nil_append]
          exact takeValue_items visible noEnd read
  | object fields each ih =>
      intro fuel rest enough ends
      rcases exists_fuel (.object fields each) enough with ⟨left, rfl⟩
      simp only [write, List.length_append, List.length_cons] at enough
      cases fields with
      | nil => rfl
      | cons field others =>
          have read := takeFields_append (List.cons_ne_nil field others) ih left (by omega) rest
          obtain ⟨more, begun⟩ : ∃ more, writeFields (field :: others) = '"' :: more := by
            cases others with
            | nil => exact ⟨_, rfl⟩
            | cons next last => exact ⟨_, rfl⟩
          rw [begun, List.cons_append] at read
          simp only [write, begun, List.cons_append, List.append_assoc, List.nil_append]
          exact takeValue_fields read

/-- The text of a value without floating-point numbers is read as its document. -/
theorem ofText?_compact {json : Json} (floatFree : FloatFree json) :
    ofText? json.compact = some json.document := by
  have read := readsBack floatFree (2 * json.write.length + 2) [] (by omega) (by simp [EndsValue])
  rw [List.append_nil] at read
  simp [ofText?, compact, read, skipBlanks]

end Document

end CriteriaQuery.Json
