import Mathlib.Data.List.Forall2
import Mathlib.Data.List.TakeWhile
import CriteriaQuery.Proofs.Building
import CriteriaQuery.Proofs.References

/-!
# Expressions in a statement

How a text is read as tokens is laid down here by rules, one for each kind of token, that
say where a token ends and nothing about how its end is found.  Every text is read in
exactly one way, and the scanner finds that way.

Putting an expression into a statement copies every token but the references.  Where those
stand, placeholders for their values are put, so writing the names back gives the text
again.
-/

namespace CriteriaQuery

namespace Token

/-- How a text is read as tokens, from left to right. -/
inductive Reads : List Char → List Token → Prop where
  | nil : Reads [] []
  /-- Quoted text goes on to the next quote. -/
  | quoted {body rest : List Char} {tokens : List Token} (unquoted : '\'' ∉ body)
      (continued : Reads rest tokens) :
      Reads ('\'' :: (body ++ '\'' :: rest)) (.quoted ('\'' :: (body ++ ['\''])) :: tokens)
  /-- Quoted text that is not closed goes on to the end. -/
  | unclosed {body : List Char} (unquoted : '\'' ∉ body) :
      Reads ('\'' :: body) [.quoted ('\'' :: body)]
  | cast {rest : List Char} {tokens : List Token} (continued : Reads rest tokens) :
      Reads (':' :: ':' :: rest) (.cast :: tokens)
  /-- A reference has the longest name that it can have. -/
  | reference {name rest : List Char} {tokens : List Token} (nonempty : name ≠ [])
      (word : ∀ char ∈ name, Text.isWordChar char = true) (ends : Text.EndsRun Text.isWordChar rest)
      (continued : Reads rest tokens) :
      Reads (':' :: (name ++ rest)) (.reference name :: tokens)
  /-- A colon with neither a second colon nor a name behind it is a character like any
  other. -/
  | colon {rest : List Char} {tokens : List Token} (single : rest.head? ≠ some ':')
      (unnamed : Text.EndsRun Text.isWordChar rest) (continued : Reads rest tokens) :
      Reads (':' :: rest) (.plain ':' :: tokens)
  | plain {char : Char} {rest : List Char} {tokens : List Token} (notQuote : char ≠ '\'')
      (notColon : char ≠ ':') (continued : Reads rest tokens) :
      Reads (char :: rest) (.plain char :: tokens)

/-- Up to the first quote nothing is a quote. -/
theorem quote_not_mem_takeWhile (text : List Char) : '\'' ∉ text.takeWhile staysQuoted := by
  intro inside
  have stays := List.mem_takeWhile_imp inside
  exact absurd stays (by decide)

/-- What the scanner finds is a reading of the text. -/
theorem reads_scan (text : List Char) : Reads text (scan text) := by
  fun_induction scan text with
  | case1 => exact .nil
  | case2 rest found =>
      apply Reads.unclosed
      intro inside
      have stays := List.dropWhile_eq_nil_iff.1 found '\'' inside
      exact absurd stays (by decide)
  | case3 rest quote after found ih =>
      have whole := List.takeWhile_append_dropWhile (p := staysQuoted) (l := rest)
      rw [found] at whole
      have isQuote : quote = '\'' := by
        have stopped := List.head?_dropWhile_not staysQuoted rest
        rw [found] at stopped
        simpa [staysQuoted] using stopped
      subst isQuote
      have read := Reads.quoted (quote_not_mem_takeWhile rest) ih
      rwa [whole] at read
  | case4 rest ih => exact .cast ih
  | case5 rest notCast unnamed ih =>
      apply Reads.colon ?_ ?_ ih
      · intro colon
        cases rest with
        | nil => cases colon
        | cons char more => exact notCast more (by rw [Option.some.inj colon])
      · intro char more same
        subst same
        cases word : Text.isWordChar char with
        | false => rfl
        | true => simp [word] at unnamed
  | case6 rest notCast named ih =>
      have nonempty : rest.takeWhile Text.isWordChar ≠ [] := by simpa using named
      have word : ∀ char ∈ rest.takeWhile Text.isWordChar, Text.isWordChar char = true :=
        fun char inside => List.mem_takeWhile_imp inside
      have read := Reads.reference nonempty word (Text.endsRun_dropWhile rest) ih
      rwa [List.takeWhile_append_dropWhile] at read
  | case7 char rest notQuote notCast notColon ih => exact .plain notQuote notColon ih

/-- Without a quote in it, a text is quoted as a whole. -/
theorem staysQuoted_of_not_mem {body : List Char} (unquoted : '\'' ∉ body) :
    ∀ char ∈ body, staysQuoted char = true := by
  intro char inside
  have other : char ≠ '\'' := fun same => unquoted (same ▸ inside)
  simpa [staysQuoted] using other

/-- Quoted text is scanned up to its closing quote. -/
theorem scan_quoted_append {body : List Char} (unquoted : '\'' ∉ body) (rest : List Char) :
    scan ('\'' :: (body ++ '\'' :: rest)) =
      .quoted ('\'' :: (body ++ ['\''])) :: scan rest := by
  have stays := staysQuoted_of_not_mem unquoted
  have ends : Text.EndsRun staysQuoted ('\'' :: rest) := Text.endsRun_cons.2 (by decide)
  have left := Text.dropWhile_run stays ends
  rw [scan.eq_2]
  split
  · next found =>
      rw [left] at found
      cases found
  · next quote after found =>
      rw [left] at found
      cases found
      rw [Text.takeWhile_run stays ends, List.cons_append]

/-- Quoted text that is not closed is scanned up to the end. -/
theorem scan_unclosed {body : List Char} (unquoted : '\'' ∉ body) :
    scan ('\'' :: body) = [.quoted ('\'' :: body)] := by
  have left : body.dropWhile staysQuoted = [] :=
    List.dropWhile_eq_nil_iff.2 (staysQuoted_of_not_mem unquoted)
  rw [scan.eq_2]
  split
  · rfl
  · next quote after found =>
      rw [left] at found
      cases found

/-- A single colon without a name is scanned as a character. -/
theorem scan_colon {rest : List Char} (single : rest.head? ≠ some ':')
    (unnamed : Text.EndsRun Text.isWordChar rest) :
    scan (':' :: rest) = .plain ':' :: scan rest := by
  have notCast : ∀ after, rest = ':' :: after → False := by
    intro after same
    exact single (by rw [same, List.head?_cons])
  have taken : ([] ++ rest).takeWhile Text.isWordChar = [] :=
    Text.takeWhile_run (List.forall_mem_nil _) unnamed
  rw [List.nil_append] at taken
  rw [scan.eq_4 _ notCast, taken]
  simp

/-- The scanner finds the one way in which a text is read. -/
theorem reads_iff {text : List Char} {tokens : List Token} :
    Reads text tokens ↔ tokens = scan text := by
  constructor
  · intro read
    induction read with
    | nil => exact scan.eq_1.symm
    | quoted unquoted continued ih => rw [scan_quoted_append unquoted, ih]
    | unclosed unquoted => rw [scan_unclosed unquoted]
    | cast continued ih => rw [scan.eq_3, ih]
    | reference nonempty word ends continued ih =>
        rw [scan_reference_append nonempty word ends, ih]
    | colon single unnamed continued ih => rw [scan_colon single unnamed, ih]
    | plain notQuote notColon continued ih =>
        rw [scan.eq_5 _ _ notQuote (fun _ colon _ => notColon colon) notColon, ih]
  · intro same
    rw [same]
    exact reads_scan text

example : scan ":::id = ':id''s' :".toList =
    [.cast, .reference "id".toList, .plain ' ', .plain '=', .plain ' ', .quoted "':id'".toList,
      .quoted "'s'".toList, .plain ' ', .plain ':'] := by cbv

/-- The references of a text that is read as tokens. -/
theorem references_of_reads {text : String} {tokens : List Token}
    (read : Reads text.toList tokens) : references text = tokens.filterMap name? := by
  rw [references, references_scan, reads_iff.1 read]

end Token

/-- A computation succeeds on a list exactly if it gives each item its result. -/
theorem mapM_eq_ok_iff_forall₂ {ε α β : Type} {compute : α → Except ε β} {items : List α}
    {results : List β} :
    items.mapM compute = .ok results ↔
      List.Forall₂ (fun item result => compute item = .ok result) items results := by
  induction items generalizing results with
  | nil =>
      rw [List.mapM_nil, List.forall₂_nil_left_iff]
      constructor
      · intro computed
        exact (Except.ok.inj computed).symm
      · intro none
        rw [none]
        rfl
  | cons item rest ih =>
      rw [List.mapM_cons, List.forall₂_cons_left_iff]
      constructor
      · intro computed
        obtain ⟨first, firstComputed, continued⟩ := Except.bind_eq_ok computed
        obtain ⟨others, othersComputed, last⟩ := Except.bind_eq_ok continued
        exact ⟨first, others, firstComputed, ih.1 othersComputed, (Except.ok.inj last).symm⟩
      · intro computed
        obtain ⟨first, others, firstComputed, othersComputed, same⟩ := computed
        rw [firstComputed, ih.2 othersComputed, same]
        rfl

namespace Statement

/-- What stands for a value in a statement: a placeholder, or for a list a placeholder for
each item with commas between them, and the text `NULL` where there is no item. -/
def placeholdersFor : Value → List Symbol
  | .list [] => chars "NULL"
  | .list items => (chars ", ").intercalate (items.map fun item => [.bound item])
  | scalar => [.bound scalar]

theorem valueSymbols_eq_placeholdersFor (value : Value) :
    valueSymbols value = placeholdersFor value := by
  have items (first : Value) (rest : List Value) :
      listSymbols (first :: rest) =
        (chars ", ").intercalate ((first :: rest).map fun item => [.bound item]) := by
    induction rest generalizing first with
    | nil => rfl
    | cons next more ih =>
        rw [listSymbols, ih, List.map_cons, List.map_cons, List.map_cons,
          List.intercalate_cons_cons]
        rfl
  cases value with
  | list values =>
      cases values with
      | nil => rfl
      | cons first rest => exact items first rest
  | null | bool | int | float | text | uuid | timestamp | json => rfl

variable (parameters : OrderedMap String Value)

/-- What is put into a statement where a token stands: placeholders for the value of a
reference, and a copy of every other token. -/
inductive Replaced : Token → List Symbol → Prop where
  | reference {name : List Char} {value : Value}
      (bound : parameters.get? (String.ofList name) = some value) :
      Replaced (.reference name) (placeholdersFor value)
  | copied {token : Token} (other : token.name? = none) :
      Replaced token (token.chars.map .char)

/-- What was put where a token stands, with the name of a reference written back. -/
def writtenBack : Token → List Symbol → List Symbol
  | .reference name, _ => .char ':' :: name.map .char
  | _, place => place

theorem tokenSymbols_eq_ok_iff {token : Token} {place : List Symbol} :
    tokenSymbols parameters token = .ok place ↔ Replaced parameters token place := by
  constructor
  · intro rendered
    cases token with
    | reference name =>
        simp only [tokenSymbols] at rendered
        cases bound : parameters.get? (String.ofList name) with
        | none => simp [bound] at rendered
        | some value =>
            simp only [bound, Except.ok.injEq] at rendered
            rw [← rendered, valueSymbols_eq_placeholdersFor]
            exact .reference bound
    | quoted | cast | plain =>
        cases rendered
        exact .copied rfl
  · intro replaced
    cases replaced with
    | reference bound =>
        simp only [tokenSymbols, bound]
        rw [valueSymbols_eq_placeholdersFor]
    | copied other =>
        cases token with
        | reference name => cases other
        | quoted | cast | plain => rfl

/-- Only a reference without a value fails. -/
theorem tokenSymbols_eq_error_iff {token : Token} {error : QueryError} :
    tokenSymbols parameters token = .error error ↔
      ∃ name, token = .reference name ∧ parameters.get? (String.ofList name) = none ∧
        error = .configuration (.unboundParameter (String.ofList name)) := by
  constructor
  · intro failed
    cases token with
    | reference name =>
        simp only [tokenSymbols] at failed
        cases bound : parameters.get? (String.ofList name) with
        | none =>
            simp only [bound, Except.error.injEq] at failed
            exact ⟨name, rfl, bound, failed.symm⟩
        | some value => simp [bound] at failed
    | quoted | cast | plain => cases failed
  · intro unbound
    obtain ⟨name, same, missing, unboundError⟩ := unbound
    rw [same, unboundError]
    simp only [tokenSymbols, missing]

/-- A token has symbols unless it is a reference without a value. -/
theorem exists_tokenSymbols_iff (token : Token) :
    (∃ place, tokenSymbols parameters token = .ok place) ↔
      ∀ name, token.name? = some name → (parameters.get? name).isSome := by
  cases token with
  | reference name =>
      cases bound : parameters.get? (String.ofList name) <;>
        simp [tokenSymbols, Token.name?, bound]
  | quoted | cast | plain => simp [tokenSymbols, Token.name?]

/-- With its name written back, what was put for a token is its text. -/
theorem writtenBack_of_replaced {token : Token} {place : List Symbol}
    (replaced : Replaced parameters token place) :
    writtenBack token place = token.chars.map .char := by
  cases replaced with
  | reference bound => rfl
  | copied other =>
      cases token with
      | reference name => cases other
      | quoted | cast | plain => rfl

theorem flatten_writtenBack {tokens : List Token} {places : List (List Symbol)}
    (replaced : List.Forall₂ (Replaced parameters) tokens places) :
    (List.zipWith writtenBack tokens places).flatten =
      (tokens.flatMap Token.chars).map .char := by
  induction replaced with
  | nil => rfl
  | cons here later ih =>
      rw [List.zipWith_cons_cons, List.flatten_cons, ih, writtenBack_of_replaced parameters here,
        List.flatMap_cons, List.map_append]

/-- The symbols of an expression are those of its tokens. -/
theorem expressionSymbols_eq_ok_iff {text : String} {symbols : List Symbol} :
    expressionSymbols parameters text = .ok symbols ↔
      ∃ places, List.Forall₂ (Replaced parameters) (Token.scan text.toList) places ∧
        symbols = places.flatten := by
  have each : (fun token place => tokenSymbols parameters token = .ok place) =
      Replaced parameters := by
    funext token place
    exact propext (tokenSymbols_eq_ok_iff parameters)
  rw [← each]
  constructor
  · intro rendered
    obtain ⟨places, computed, last⟩ := Except.bind_eq_ok rendered
    exact ⟨places, mapM_eq_ok_iff_forall₂.1 computed, (Except.ok.inj last).symm⟩
  · intro replaced
    obtain ⟨places, computed, same⟩ := replaced
    rw [expressionSymbols, mapM_eq_ok_iff_forall₂.2 computed, same]
    rfl

/-- The first reference without a value decides the error of an expression. -/
theorem expressionSymbols_eq_error_iff {text : String} {error : QueryError} :
    expressionSymbols parameters text = .error error ↔
      ∃ earlier name later,
        Token.scan text.toList = earlier ++ .reference name :: later ∧
          (∀ other ∈ earlier.filterMap Token.name?, (parameters.get? other).isSome) ∧
          parameters.get? (String.ofList name) = none ∧
          error = .configuration (.unboundParameter (String.ofList name)) := by
  apply Except.bind_ok_eq_error_iff.trans
  rw [mapM_eq_error_iff]
  constructor
  · intro first
    obtain ⟨earlier, token, later, split, rendered, unrendered⟩ := first
    obtain ⟨name, same, missing, unbound⟩ := (tokenSymbols_eq_error_iff parameters).1 unrendered
    refine ⟨earlier, name, later, by rw [split, same], ?_, missing, unbound⟩
    intro other inside
    obtain ⟨token, member, named⟩ := List.mem_filterMap.1 inside
    exact (exists_tokenSymbols_iff parameters token).1 (rendered token member) other named
  · intro first
    obtain ⟨earlier, name, later, split, bound, missing, unbound⟩ := first
    refine ⟨earlier, .reference name, later, split, ?_,
      (tokenSymbols_eq_error_iff parameters).2 ⟨name, rfl, missing, unbound⟩⟩
    intro token member
    apply (exists_tokenSymbols_iff parameters token).2
    intro other named
    exact bound other (List.mem_filterMap.2 ⟨token, member, named⟩)

/-- Append an expression with the values that it refers to. -/
def pushExpression (statement : Statement) (text : String) : Except QueryError Statement :=
  (expressionSymbols parameters text).map statement.append

/-- How an expression is put behind a statement, whatever was built before.

A text is read as tokens in exactly one way.  It can be put into the statement exactly if
every reference among its tokens has a value.  Then it is appended with placeholders where a
reference stands and a copy of every other token, the placeholders are numbered from the
number of values before them, and writing the names back where placeholders were put gives
the text.  Otherwise the error is that of the first reference without a value. -/
theorem pushExpression_exact (before : Statement) (text : String) :
    ∃ tokens,
      (∀ others, Token.Reads text.toList others ↔ others = tokens) ∧
      ((∃ after, before.pushExpression parameters text = .ok after) ↔
        ∀ name ∈ tokens.filterMap Token.name?, (parameters.get? name).isSome) ∧
      (∀ after, before.pushExpression parameters text = .ok after →
        ∃ places, List.Forall₂ (Replaced parameters) tokens places ∧
          after = before.append places.flatten ∧
          after.sql.toList =
            before.sql.toList ++ numbered before.parameters.length (texts places.flatten) ∧
          after.parameters = before.parameters ++ boundValues places.flatten ∧
          (List.zipWith writtenBack tokens places).flatten = chars text) ∧
      ∀ error, before.pushExpression parameters text = .error error ↔
        ∃ earlier name later,
          tokens = earlier ++ .reference name :: later ∧
            (∀ other ∈ earlier.filterMap Token.name?, (parameters.get? other).isSome) ∧
            parameters.get? (String.ofList name) = none ∧
            error = .configuration (.unboundParameter (String.ofList name)) := by
  refine ⟨Token.scan text.toList, fun _ => Token.reads_iff, ?_, ?_, ?_⟩
  · rw [← Token.references_of_reads (Token.reads_scan _), ← exists_expressionSymbols_iff]
    constructor
    · intro pushed
      obtain ⟨after, pushed⟩ := pushed
      obtain ⟨symbols, found, -⟩ := Except.map_eq_ok pushed
      exact ⟨symbols, found⟩
    · intro found
      obtain ⟨symbols, found⟩ := found
      rw [pushExpression, found]
      exact ⟨_, rfl⟩
  · intro after pushed
    obtain ⟨symbols, found, appended⟩ := Except.map_eq_ok pushed
    obtain ⟨places, replaced, same⟩ := (expressionSymbols_eq_ok_iff parameters).1 found
    subst same
    subst appended
    refine ⟨places, replaced, rfl, sql_append _ _, parameters_append _ _, ?_⟩
    rw [flatten_writtenBack parameters replaced, Token.flatMap_chars_scan, chars]
  · intro error
    rw [pushExpression, Except.map_eq_error_iff]
    exact expressionSymbols_eq_error_iff parameters

end Statement

end CriteriaQuery
