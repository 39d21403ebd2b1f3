import CriteriaQuery.Proofs.Runs
import CriteriaQuery.Proofs.Symbols

/-!
# References of an expression

The references of an expression can be read off character by character, remembering only
where the reader stands: outside, inside quotes, behind a colon, or inside a name.  The
names it finds are those of the reference tokens, so the values that a rendered
expression binds are given by this reader alone.

Conditions that are written around a single reference are read back as such.
-/

namespace CriteriaQuery

namespace Token

/-- Where a reader of references stands. -/
inductive Reading where
  | outside
  | quoted
  /-- Behind a colon that may begin a reference or a cast. -/
  | colon
  /-- Inside a reference, behind the first characters of its name. -/
  | name (read : List Char)
deriving DecidableEq, Repr

namespace Reading

/-- Where a reader stands behind a character that it reads outside. -/
def step (char : Char) : Reading :=
  if char = '\'' then .quoted else if char = ':' then .colon else .outside

/-- The names that a reader still finds in a text. -/
def references : Reading → List Char → List String
  | .name read, [] => [String.ofList read]
  | .outside, [] => []
  | .quoted, [] => []
  | .colon, [] => []
  | .outside, char :: rest => references (step char) rest
  | .quoted, char :: rest => references (if char = '\'' then .outside else .quoted) rest
  | .colon, char :: rest =>
      if char = ':' then references .outside rest
      else if Text.isWordChar char then references (.name [char]) rest
      else references (step char) rest
  | .name read, char :: rest =>
      if Text.isWordChar char then references (.name (read ++ [char])) rest
      else String.ofList read :: references (step char) rest

/-- Inside quotes nothing is found up to the closing quote. -/
theorem references_quoted (text : List Char) :
    references .quoted text = references .outside ((text.dropWhile staysQuoted).drop 1) := by
  induction text with
  | nil => rfl
  | cons char rest ih =>
      by_cases quote : char = '\''
      · simp [references, quote, staysQuoted]
      · simp [references, quote, staysQuoted, ih, List.dropWhile_cons]

/-- A name goes on for as long as it can. -/
theorem references_name (read text : List Char) :
    references (.name read) text =
      String.ofList (read ++ text.takeWhile Text.isWordChar) ::
        references .outside (text.dropWhile Text.isWordChar) := by
  induction text generalizing read with
  | nil => simp [references]
  | cons char rest ih =>
      by_cases word : Text.isWordChar char = true
      · simp [references, word, ih]
      · simp [references, word]

/-- Without colons nothing is found, be it quoted or not. -/
theorem references_eq_nil {text : List Char} (noColon : ':' ∉ text) :
    references .outside text = [] ∧ references .quoted text = [] := by
  induction text with
  | nil => exact ⟨rfl, rfl⟩
  | cons char rest ih =>
      rw [List.mem_cons, not_or] at noColon
      rcases noColon with ⟨other, noColonRest⟩
      rcases ih noColonRest with ⟨outside, quoted⟩
      by_cases quote : char = '\''
      · simp [references, step, quote, outside, quoted]
      · simp [references, step, quote, Ne.symm other, outside, quoted]

end Reading

/-- The names of the references of an expression, in order. -/
def references (text : String) : List String :=
  Reading.outside.references text.toList

/-- The name of a token that is a reference. -/
def name? : Token → Option String
  | .reference name => some (String.ofList name)
  | _ => none

/-- The reader finds the names of the reference tokens. -/
theorem references_scan (text : List Char) :
    Reading.outside.references text = (scan text).filterMap name? := by
  -- the scanner takes a whole token where the reader takes one character, so the reader is
  -- carried over quoted texts and names by the lemmas above
  fun_induction scan text with
  | case1 => rfl
  | case2 rest found =>
      simp [Reading.references, Reading.step, Reading.references_quoted, found,
        List.filterMap_cons, name?]
  | case3 rest quote after found ih =>
      simp [Reading.references, Reading.step, Reading.references_quoted, found,
        List.filterMap_cons, name?, ih]
  | case4 rest ih => simp [Reading.references, Reading.step, List.filterMap_cons, name?, ih]
  | case5 rest notCast unnamed ih =>
      cases rest with
      | nil => simpa [Reading.references, Reading.step, List.filterMap_cons, name?] using ih
      | cons char more =>
          have notColon : char ≠ ':' := fun colon => notCast more (by rw [colon])
          have notWord : Text.isWordChar char = false := by
            cases word : Text.isWordChar char with
            | false => rfl
            | true => simp [word] at unnamed
          rw [List.filterMap_cons, ← ih]
          simp [Reading.references, Reading.step, name?, notColon, notWord]
  | case6 rest notCast named ih =>
      cases rest with
      | nil => simp at named
      | cons char more =>
          have notColon : char ≠ ':' := fun colon => notCast more (by rw [colon])
          have word : Text.isWordChar char = true := by
            cases word : Text.isWordChar char with
            | true => rfl
            | false => simp [word] at named
          rw [List.filterMap_cons, ← ih]
          simp [Reading.references, Reading.step, name?, notColon, word,
            Reading.references_name]
  | case7 char rest notQuote notCast notColon ih =>
      rw [List.filterMap_cons, ← ih]
      simp_all [Reading.references, Reading.step, name?]

/-- Characters that neither quote nor refer are tokens of their own. -/
theorem scan_plain_append {text : List Char} (plain : ∀ char ∈ text, char ≠ '\'' ∧ char ≠ ':')
    (rest : List Char) : scan (text ++ rest) = text.map .plain ++ scan rest := by
  induction text with
  | nil => rfl
  | cons char more ih =>
      rcases plain char List.mem_cons_self with ⟨notQuote, notColon⟩
      rw [List.cons_append, scan.eq_5 char _ notQuote (fun _ colon _ => notColon colon) notColon,
        ih fun other inside => plain other (List.mem_cons_of_mem _ inside), List.map_cons,
        List.cons_append]

/-- A colon and a name that nothing continues are a reference. -/
theorem scan_reference_append {name rest : List Char} (nonempty : name ≠ [])
    (word : ∀ char ∈ name, Text.isWordChar char = true)
    (stops : ∀ char more, rest = char :: more → Text.isWordChar char = false) :
    scan (':' :: (name ++ rest)) = .reference name :: scan rest := by
  have notCast : ∀ after, name ++ rest = ':' :: after → False := by
    cases name with
    | nil => exact absurd rfl nonempty
    | cons first more =>
        intro after same
        have colon := word first List.mem_cons_self
        rw [(List.cons.inj same).1] at colon
        exact absurd colon (by decide)
  rw [scan.eq_4 _ notCast, Text.takeWhile_run word stops, Text.dropWhile_run word stops]
  simp [nonempty]

end Token

namespace Text

/-- Only letters, digits and underscores. -/
def IsWord (text : String) : Prop :=
  ∀ char ∈ text.toList, isWordChar char = true

/-- Nothing that begins a quoted text or a reference. -/
def IsPlain (text : String) : Prop :=
  ∀ char ∈ text.toList, char ≠ '\'' ∧ char ≠ ':'

instance (text : String) : Decidable (IsWord text) :=
  List.decidableBAll _ text.toList

instance (text : String) : Decidable (IsPlain text) :=
  List.decidableBAll _ text.toList

theorem IsWord.isPlain {text : String} (word : IsWord text) : IsPlain text := by
  intro char inside
  have isWord := word char inside
  constructor
  · rintro rfl
    exact absurd isWord (by decide)
  · rintro rfl
    exact absurd isWord (by decide)

theorem IsWord.append {first second : String} (left : IsWord first) (right : IsWord second) :
    IsWord (first ++ second) := by
  intro char inside
  rw [String.toList_append, List.mem_append] at inside
  exact inside.elim (left char) (right char)

theorem IsPlain.append {first second : String} (left : IsPlain first) (right : IsPlain second) :
    IsPlain (first ++ second) := by
  intro char inside
  rw [String.toList_append, List.mem_append] at inside
  exact inside.elim (left char) (right char)

end Text

namespace Token

/-- A text without quotes and references is read character by character. -/
theorem scan_plain {text : String} (plain : Text.IsPlain text) :
    scan text.toList = text.toList.map .plain := by
  have alone := scan_plain_append plain []
  rwa [List.append_nil, scan.eq_1, List.append_nil] at alone

section Around

variable {opening name closing : String} (plainOpening : Text.IsPlain opening)
  (nonempty : name ≠ "") (word : Text.IsWord name) (plainClosing : Text.IsPlain closing)
  (stops : ∀ char more, closing.toList = char :: more → Text.isWordChar char = false)

include plainOpening nonempty word plainClosing stops

/-- A text around one reference is read around that reference. -/
theorem scan_around :
    scan (opening ++ ":" ++ name ++ closing).toList =
      opening.toList.map .plain ++ .reference name.toList :: closing.toList.map .plain := by
  have letters : (opening ++ ":" ++ name ++ closing).toList =
      opening.toList ++ ':' :: (name.toList ++ closing.toList) := by
    simp [String.toList_append]
  have named : name.toList ≠ [] := by simpa using nonempty
  rw [letters, scan_plain_append plainOpening, scan_reference_append named word stops,
    scan_plain plainClosing]

/-- Such a text has one reference. -/
theorem references_around : references (opening ++ ":" ++ name ++ closing) = [name] := by
  have unnamed (text : List Char) : (text.map plain).filterMap name? = [] := by
    rw [List.filterMap_map]
    exact List.filterMap_eq_nil_iff.2 fun _ _ => rfl
  rw [references, references_scan, scan_around plainOpening nonempty word plainClosing stops,
    List.filterMap_append, List.filterMap_cons_some (rfl : name? (.reference _) = some _),
    unnamed, unnamed, String.ofList_toList]
  rfl

end Around

/-- A text without colons has no references. -/
theorem references_eq_nil {text : String} (noColon : ':' ∉ text.toList) :
    references text = [] :=
  (Reading.references_eq_nil noColon).1

end Token

namespace Statement

variable (parameters : OrderedMap String Value)

/-- The values that the references of an expression bind, in order. -/
def referencedValues (text : String) : List Value :=
  (Token.references text).flatMap fun name =>
    ((parameters.get? name).map Value.bindings).getD []

/-- A rendered expression binds the values of its references, in order, and no others. -/
theorem boundValues_expressionImage (text : String) :
    boundValues (expressionImage parameters text) = referencedValues parameters text := by
  rw [expressionImage, boundValues_flatMap, referencedValues, Token.references,
    Token.references_scan]
  induction Token.scan text.toList with
  | nil => rfl
  | cons token rest ih =>
      rw [List.flatMap_cons, ih, List.filterMap_cons]
      cases token with
      | reference name =>
          cases bound : parameters.get? (String.ofList name) with
          | none => simp [tokenImage, Token.name?, bound, boundValues]
          | some value => simp [tokenImage, Token.name?, bound]
      | quoted | cast | plain =>
          simp [tokenImage, Token.name?, boundValues, Symbol.value?, Function.comp_def]

/-- In an expression that could be rendered every reference has a value. -/
theorem isSome_of_expressionSymbols {text : String} {symbols : List Symbol}
    (rendered : expressionSymbols parameters text = .ok symbols) {name : String}
    (referenced : name ∈ Token.references text) : (parameters.get? name).isSome := by
  rcases Except.bind_eq_ok rendered with ⟨images, computed, -⟩
  rw [Token.references, Token.references_scan] at referenced
  rcases List.mem_filterMap.1 referenced with ⟨token, member, named⟩
  rcases eq_ok_of_mapM computed member with ⟨image, found⟩
  cases token with
  | reference chars =>
      cases named
      simp only [tokenSymbols] at found
      cases bound : parameters.get? (String.ofList chars) with
      | none => simp [bound] at found
      | some value => rfl
  | quoted | cast | plain => cases named

/-- An expression can be rendered exactly if every reference has a value. -/
theorem exists_expressionSymbols_iff {text : String} :
    (∃ symbols, expressionSymbols parameters text = .ok symbols) ↔
      ∀ name ∈ Token.references text, (parameters.get? name).isSome := by
  constructor
  · rintro ⟨symbols, rendered⟩ name referenced
    exact isSome_of_expressionSymbols parameters rendered referenced
  · intro bound
    have each : ∀ token ∈ Token.scan text.toList,
        ∃ symbols, tokenSymbols parameters token = .ok symbols := by
      intro token member
      cases token with
      | reference chars =>
          have referenced : String.ofList chars ∈ Token.references text := by
            rw [Token.references, Token.references_scan]
            exact List.mem_filterMap.2 ⟨_, member, rfl⟩
          rcases Option.isSome_iff_exists.1 (bound _ referenced) with ⟨value, found⟩
          exact ⟨valueSymbols value, by simp only [tokenSymbols, found]⟩
      | quoted | cast | plain => exact ⟨_, rfl⟩
    rcases mapM_of_forall each with ⟨tokens, computed⟩
    refine ⟨tokens.flatten, ?_⟩
    rw [expressionSymbols, computed]
    rfl

/-- A text around one reference is rendered around the value of that reference. -/
theorem expressionImage_reference {opening name closing : String}
    (plainOpening : Text.IsPlain opening) (nonempty : name ≠ "") (word : Text.IsWord name)
    (plainClosing : Text.IsPlain closing)
    (stops : ∀ char more, closing.toList = char :: more → Text.isWordChar char = false) :
    expressionImage parameters (opening ++ ":" ++ name ++ closing) =
      chars opening ++ ((parameters.get? name).map valueSymbols).getD [] ++ chars closing := by
  rw [expressionImage, Token.scan_around plainOpening nonempty word plainClosing stops,
    List.flatMap_append, List.flatMap_cons, List.flatMap_map, List.flatMap_map]
  simp [tokenImage, Token.chars, chars, List.map_eq_flatMap, String.ofList_toList]

end Statement

namespace Query

open Statement

/-- A statement binds the values of the references in its joins and then in its conditions,
and after them the limit and the offset. -/
theorem parameters_of_statement {query : Query} {statement : Statement}
    (rendered : query.statement = .ok statement) :
    statement.parameters =
      (query.allJoins.flatMap fun join => referencedValues query.parameters join.text) ++
        query.conditions.flatMap (referencedValues query.parameters) ++
        query.limit.toList.map .int ++ query.offset.toList.map .int := by
  have outright : statement.parameters = boundValues statement.symbols := rfl
  rw [outright, symbols_of_statement rendered]
  simp [joinImages, conditionImages, tailSymbols, List.flatMap_map,
    boundValues_expressionImage]

/-- A query has a statement exactly if its table, its root alias and the aliases that it
selects are identifiers, and every reference in its joins and conditions has a value. -/
theorem exists_statement_iff {query : Query} :
    (∃ statement, query.statement = .ok statement) ↔
      Text.isIdentifier query.table ∧ Text.isIdentifier query.rootAlias ∧
        (∀ text ∈ query.selections, text ∈ query.aliases → Text.isIdentifier text) ∧
        (∀ join ∈ query.allJoins, ∀ name ∈ Token.references join.text,
          (query.parameters.get? name).isSome) ∧
        ∀ text ∈ query.conditions, ∀ name ∈ Token.references text,
          (query.parameters.get? name).isSome := by
  constructor
  · rintro ⟨statement, rendered⟩
    rcases parts_of_statement rendered with ⟨_, _, _, joins, conditions, selected, tableRead,
      aliasRead, joined, conditioned, -⟩
    refine ⟨isIdentifier_of_identifierSymbols tableRead,
      isIdentifier_of_identifierSymbols aliasRead, ?_, ?_, ?_⟩
    · intro text member known
      rcases eq_ok_of_mapM selected member with ⟨symbols, found⟩
      rw [selectionSymbols, if_pos known] at found
      rcases Except.map_eq_ok found with ⟨_, identified, -⟩
      exact isIdentifier_of_identifierSymbols identified
    · intro join member
      exact (exists_expressionSymbols_iff query.parameters).1 (eq_ok_of_mapM joined member)
    · intro text member
      exact (exists_expressionSymbols_iff query.parameters).1 (eq_ok_of_mapM conditioned member)
  · rintro ⟨table, rootAlias, selections, joins, conditions⟩
    have selected : ∃ symbols,
        query.selections.mapM (selectionSymbols query.aliases) = .ok symbols := by
      apply mapM_of_forall
      intro text member
      rw [selectionSymbols]
      split
      · next known =>
          rw [identifierSymbols, if_pos (selections text member known)]
          exact ⟨_, rfl⟩
      · exact ⟨_, rfl⟩
    have joined : ∃ symbols, (query.allJoins.mapM fun join =>
        expressionSymbols query.parameters join.text) = .ok symbols := by
      apply mapM_of_forall
      intro join member
      exact (exists_expressionSymbols_iff query.parameters).2 (joins join member)
    have conditioned : ∃ symbols,
        query.conditions.mapM (expressionSymbols query.parameters) = .ok symbols := by
      apply mapM_of_forall
      intro text member
      exact (exists_expressionSymbols_iff query.parameters).2 (conditions text member)
    rcases selected with ⟨_, selected⟩
    rcases joined with ⟨_, joined⟩
    rcases conditioned with ⟨_, conditioned⟩
    rw [Query.statement, selected, joined, conditioned, identifierSymbols, if_pos table,
      identifierSymbols, if_pos rootAlias]
    exact ⟨_, rfl⟩

/-- In a query with a statement every reference has a value. -/
theorem references_bound {query : Query} {statement : Statement}
    (rendered : query.statement = .ok statement) {name : String}
    (referenced : (∃ join ∈ query.allJoins, name ∈ Token.references join.text) ∨
      ∃ text ∈ query.conditions, name ∈ Token.references text) :
    (query.parameters.get? name).isSome := by
  rcases exists_statement_iff.1 ⟨statement, rendered⟩ with ⟨-, -, -, joins, conditions⟩
  rcases referenced with ⟨join, member, inside⟩ | ⟨text, member, inside⟩
  · exact joins join member name inside
  · exact conditions text member name inside

end Query

end CriteriaQuery
