import CriteriaQuery.Proofs.Building
import CriteriaQuery.Proofs.References

/-!
# The grammar of identifiers

What an identifier is, laid down by rules that do not say how a text is taken apart: a name,
or a name with a dot and an identifier behind it, where a name is made of ASCII letters,
digits and underscores and does not start with a digit.

These are exactly the texts that a statement takes as identifiers.  Since it takes them as
they stand, nothing that could end or open another piece of SQL gets in that way.
-/

namespace CriteriaQuery

namespace Text

/-- An ASCII letter. -/
def IsLetter (char : Char) : Prop :=
  ('A' ≤ char ∧ char ≤ 'Z') ∨ ('a' ≤ char ∧ char ≤ 'z')

/-- An ASCII digit. -/
def IsDigit (char : Char) : Prop :=
  '0' ≤ char ∧ char ≤ '9'

/-- A letter or an underscore with any number of letters, digits and underscores behind it. -/
inductive Name : List Char → Prop where
  | intro {first : Char} {rest : List Char} (start : IsLetter first ∨ first = '_')
      (continued : ∀ char ∈ rest, IsLetter char ∨ IsDigit char ∨ char = '_') :
      Name (first :: rest)

/-- Names joined by single dots. -/
inductive Identifier : List Char → Prop where
  | single {name : List Char} (named : Name name) : Identifier name
  | dotted {name rest : List Char} (named : Name name) (continued : Identifier rest) :
      Identifier (name ++ '.' :: rest)

theorem isAlpha_iff (char : Char) : char.isAlpha = true ↔ IsLetter char := by
  have letters : char.isAlpha =
      (decide ('A' ≤ char ∧ char ≤ 'Z') || (decide ('a' ≤ char) && decide (char ≤ 'z'))) := rfl
  rw [letters, IsLetter, Bool.or_eq_true, Bool.and_eq_true, decide_eq_true_eq, decide_eq_true_eq,
    decide_eq_true_eq]

theorem isDigit_iff (char : Char) : char.isDigit = true ↔ IsDigit char := by
  simp [Char.isDigit, IsDigit, Char.le_def]

theorem isSegmentStart_iff (char : Char) :
    isSegmentStart char = true ↔ IsLetter char ∨ char = '_' := by
  rw [isSegmentStart, Bool.or_eq_true, isAlpha_iff, beq_iff_eq, or_comm]

theorem isWordChar_iff (char : Char) :
    isWordChar char = true ↔ IsLetter char ∨ IsDigit char ∨ char = '_' := by
  rw [isWordChar, Char.isAlphanum, Bool.or_eq_true, Bool.or_eq_true, isAlpha_iff, isDigit_iff,
    beq_iff_eq, or_comm, or_assoc]

theorem isSegment_iff (part : List Char) : isSegment part = true ↔ Name part := by
  constructor
  · intro segment
    cases part with
    | nil => cases segment
    | cons first rest =>
        rw [isSegment, Bool.and_eq_true, isSegmentStart_iff, List.all_eq_true] at segment
        exact .intro segment.1 fun char inside => (isWordChar_iff char).1 (segment.2 char inside)
  · intro named
    cases named with
    | intro start continued =>
        rw [isSegment, Bool.and_eq_true, isSegmentStart_iff, List.all_eq_true]
        exact ⟨start, fun char inside => (isWordChar_iff char).2 (continued char inside)⟩

/-- All characters of a name may stand behind its first. -/
theorem Name.chars {name : List Char} (named : Name name) :
    ∀ char ∈ name, IsLetter char ∨ IsDigit char ∨ char = '_' := by
  cases named with
  | intro start continued =>
      intro char inside
      cases inside with
      | head => exact start.imp_right .inr
      | tail _ later => exact continued char later

theorem Name.dot_not_mem {name : List Char} (named : Name name) : '.' ∉ name := by
  intro inside
  have word := (isWordChar_iff '.').2 (named.chars '.' inside)
  exact absurd word (by decide)

theorem splitAt_ne_nil (separator : Char) (text : List Char) : splitAt separator text ≠ [] := by
  cases text with
  | nil => simp [splitAt]
  | cons char rest =>
      simp only [splitAt]
      split
      · simp
      · split <;> simp

/-- Without a separator in it, a text is one part. -/
theorem splitAt_of_not_mem {separator : Char} {part : List Char} (free : separator ∉ part) :
    splitAt separator part = [part] := by
  induction part with
  | nil => rfl
  | cons char rest ih =>
      rw [List.mem_cons, not_or] at free
      rw [splitAt, if_neg (Ne.symm free.1), ih free.2]

/-- The first separator ends the first part. -/
theorem splitAt_append_cons {separator : Char} {part : List Char} (free : separator ∉ part)
    (rest : List Char) :
    splitAt separator (part ++ separator :: rest) = part :: splitAt separator rest := by
  induction part with
  | nil => rw [List.nil_append, splitAt, if_pos rfl]
  | cons char more ih =>
      rw [List.mem_cons, not_or] at free
      rw [List.cons_append, splitAt, if_neg (Ne.symm free.1), ih free.2]

/-- Names with dots between them are an identifier. -/
theorem Identifier.intercalate {names : List (List Char)} (nonempty : names ≠ [])
    (named : ∀ name ∈ names, Name name) : Identifier (['.'].intercalate names) := by
  induction names with
  | nil => exact absurd rfl nonempty
  | cons first rest ih =>
      rw [List.forall_mem_cons] at named
      cases rest with
      | nil =>
          rw [List.intercalate_singleton]
          exact .single named.1
      | cons second more =>
          rw [List.intercalate_cons_cons, List.append_assoc]
          exact .dotted named.1 (ih (List.cons_ne_nil _ _) named.2)

/-- Every part of an identifier between dots is a name. -/
theorem Identifier.parts {text : List Char} (identifier : Identifier text) :
    ∀ part ∈ splitAt '.' text, Name part := by
  induction identifier with
  | single named =>
      rw [splitAt_of_not_mem named.dot_not_mem]
      exact List.forall_mem_singleton.2 named
  | dotted named continued ih =>
      rw [splitAt_append_cons named.dot_not_mem]
      exact List.forall_mem_cons.2 ⟨named, ih⟩

/-- Taking a text apart at its dots decides whether the grammar gives it. -/
theorem isIdentifier_iff (text : String) :
    isIdentifier text = true ↔ Identifier text.toList := by
  have parts : isIdentifier text = true ↔ ∀ part ∈ splitAt '.' text.toList, Name part := by
    rw [isIdentifier, List.all_eq_true]
    simp only [isSegment_iff]
  rw [parts]
  constructor
  · intro named
    have joined := Identifier.intercalate (splitAt_ne_nil '.' text.toList) named
    rwa [intercalate_splitAt] at joined
  · exact Identifier.parts

/-- An identifier is made of letters, digits, underscores and dots. -/
theorem Identifier.chars {text : List Char} (identifier : Identifier text) :
    ∀ char ∈ text, (IsLetter char ∨ IsDigit char ∨ char = '_') ∨ char = '.' := by
  induction identifier with
  | single named => exact fun char inside => .inl (named.chars char inside)
  | dotted named continued ih =>
      intro char inside
      rw [List.mem_append, List.mem_cons] at inside
      rcases inside with inside | dot | later
      · exact .inl (named.chars char inside)
      · exact .inr dot
      · exact ih char later

/-- Characters that could end a piece of SQL, or open another one, are in no identifier. -/
theorem Identifier.special_not_mem {text : List Char} (identifier : Identifier text) :
    ∀ char ∈ " \t\r\n'\";:$-/*".toList, char ∉ text := by
  intro char special inside
  -- as a run over the list, so that it is not decided for every character there is
  have other : " \t\r\n'\";:$-/*".toList.all fun char => !isWordChar char && char != '.' := by
    decide
  have apart := List.all_eq_true.1 other char special
  rw [Bool.and_eq_true, Bool.not_eq_true', bne_iff_ne] at apart
  rcases identifier.chars char inside with word | dot
  · exact absurd ((isWordChar_iff char).2 word) (Bool.eq_false_iff.1 apart.1)
  · exact apart.2 dot

example : Identifier "public._users2".toList ∧ ¬Identifier "users.2fa".toList ∧
    ¬Identifier "users..name".toList ∧ ¬Identifier "".toList ∧ ¬Identifier "é".toList := by
  simp only [← isIdentifier_iff]
  decide

end Text

namespace Statement

theorem sql_push (statement : Statement) (text : String) :
    (statement.push text).sql = statement.sql ++ text := by
  apply String.toList_inj.1
  rw [String.toList_append, sql, sql, String.toList_ofList, String.toList_ofList, symbols_push,
    renderFrom_append, chars, renderFrom_map_char]

/-- An identifier is pushed like any other text. -/
theorem pushIdentifier_eq_ok_iff {statement after : Statement} {text : String} :
    statement.pushIdentifier text = .ok after ↔
      Text.isIdentifier text = true ∧ after = statement.push text := by
  rw [pushIdentifier, identifierSymbols]
  split
  · next identifier => simp [Except.map, push, identifier, eq_comm]
  · next refused => simp [Except.map, refused]

theorem pushIdentifier_eq_error_iff {statement : Statement} {text : String} {error : QueryError} :
    statement.pushIdentifier text = .error error ↔
      ¬Text.isIdentifier text = true ∧ error = .validation (.identifier text) := by
  rw [pushIdentifier, identifierSymbols]
  split
  · next identifier => simp [Except.map, identifier]
  · next refused => simp [Except.map, refused, eq_comm]

end Statement

namespace Query

open Statement

/-- The selections of a query as they are executed. -/
def selectionList (query : Query) : String :=
  if query.selections = [] then "*"
  else ", ".intercalate (query.selections.map (selectionText query.aliases))

/-- Texts with a separator between them are one text. -/
theorem chars_intercalate (separator : String) (texts : List String) :
    (chars separator).intercalate (texts.map chars) = chars (separator.intercalate texts) := by
  induction texts with
  | nil => rfl
  | cons first rest ih =>
      cases rest with
      | nil => simp
      | cons second more =>
          rw [List.map_cons, List.map_cons, List.intercalate_cons_cons, ← List.map_cons, ih,
            String.intercalate_cons_cons]
          simp [chars]

theorem selectionsClause_eq_chars (query : Query) :
    selectionsClause (query.selections.map fun text => chars (selectionText query.aliases text)) =
      chars query.selectionList := by
  rw [selectionList]
  cases query.selections with
  | nil => rfl
  | cons first rest =>
      rw [if_neg (List.cons_ne_nil _ _), ← chars_intercalate, List.map_map]
      rfl

/-- The text in front of the joins. -/
theorem headSymbols_eq_chars (query : Query) :
    query.headSymbols =
      chars ("SELECT " ++ query.selectionList ++ " FROM " ++ query.table ++ " " ++
        query.rootAlias) := by
  rw [headSymbols, selectionsClause_eq_chars]
  simp [chars]

/-- A statement begins with what is selected and where from. -/
theorem sql_eq_head_append {query : Query} {statement : Statement}
    (rendered : query.statement = .ok statement) :
    ∃ rest, statement.sql =
      "SELECT " ++ query.selectionList ++ " FROM " ++ query.table ++ " " ++ query.rootAlias ++
        rest := by
  have symbols := symbols_of_statement rendered
  rw [headSymbols_eq_chars, List.append_assoc, List.append_assoc] at symbols
  refine ⟨String.ofList (renderFrom 0 (joinsClause query.joinImages ++
    (conditionsClause query.conditionImages ++ query.tailSymbols))), ?_⟩
  rw [Statement.sql, symbols, renderFrom_chars_append, String.ofList_append, String.ofList_toList]

end Query

namespace Statement

/-- Which texts a statement takes as identifiers, and what becomes of it.

A text is taken exactly if the grammar gives it.  Then the rendering grows by exactly this
text, nothing is bound, and no blank, quote, semicolon, colon or dollar sign and nothing that
opens a comment is added.  Otherwise the error names the text and the statement is left as it
was.

So in every query that can be rendered the table, the root alias and all selections that
stand for the columns of an alias are identifiers, and the rendering begins with them. -/
theorem pushIdentifier_exact (statement : Statement) (text : String) :
    ((∃ after, statement.pushIdentifier text = .ok after) ↔ Text.Identifier text.toList) ∧
    (∀ after, statement.pushIdentifier text = .ok after →
      statement.advance (.identifier text) = after ∧
      after.sql = statement.sql ++ text ∧ after.parameters = statement.parameters ∧
      (∀ char ∈ text.toList,
        (Text.IsLetter char ∨ Text.IsDigit char ∨ char = '_') ∨ char = '.') ∧
      ∀ char ∈ " \t\r\n'\";:$-/*".toList, char ∉ text.toList) ∧
    (∀ error, statement.pushIdentifier text = .error error ↔
      ¬Text.Identifier text.toList ∧ error = .validation (.identifier text)) ∧
    (¬Text.Identifier text.toList → statement.advance (.identifier text) = statement) ∧
    ∀ (query : Query) (rendered : Statement), query.statement = .ok rendered →
      Text.Identifier query.table.toList ∧ Text.Identifier query.rootAlias.toList ∧
        (∀ selection ∈ query.selections, selection ∈ query.aliases →
          Text.Identifier selection.toList) ∧
        ∃ rest, rendered.sql =
          "SELECT " ++ query.selectionList ++ " FROM " ++ query.table ++ " " ++
            query.rootAlias ++ rest := by
  refine ⟨?_, ?_, ?_, ?_, ?_⟩
  · simp only [pushIdentifier_eq_ok_iff, Text.isIdentifier_iff, exists_and_left, exists_eq,
      and_true]
  · intro after pushed
    have advanced : statement.advance (.identifier text) = after := by
      rw [advance, Step.run, pushed]
    obtain ⟨identifier, same⟩ := pushIdentifier_eq_ok_iff.1 pushed
    have grammar := (Text.isIdentifier_iff text).1 identifier
    have bound := parameters_append statement (chars text)
    have nothing : (chars text).filterMap Symbol.value? = [] := boundValues_chars text
    rw [nothing, List.append_nil] at bound
    rw [same] at advanced ⊢
    exact ⟨advanced, sql_push statement text, bound, grammar.chars, grammar.special_not_mem⟩
  · intro error
    rw [pushIdentifier_eq_error_iff, Text.isIdentifier_iff]
  · intro refused
    rw [← Text.isIdentifier_iff] at refused
    rw [advance, Step.run, pushIdentifier_eq_error_iff.2 ⟨refused, rfl⟩]
  · intro query rendered isRendered
    obtain ⟨table, rootAlias, selections, -, -⟩ :=
      Query.exists_statement_iff.1 ⟨rendered, isRendered⟩
    refine ⟨(Text.isIdentifier_iff _).1 table, (Text.isIdentifier_iff _).1 rootAlias, ?_,
      Query.sql_eq_head_append isRendered⟩
    intro selection member known
    exact (Text.isIdentifier_iff _).1 (selections selection member known)

end Statement

end CriteriaQuery
