import CriteriaQuery.QueryError
import CriteriaQuery.Text.Identifier
import CriteriaQuery.Value.Basic

/-!
# Statements

A statement is a sequence of characters and bound values. Its SQL text has a
numbered placeholder for each value; the values themselves are sent beside the
text and never become part of it.

In SQL that is put together in pieces (`Sql`) the values are in a list of their own. A
statement is what such pieces stand for: each value stands where its placeholder will.
-/

namespace CriteriaQuery

/-- What a statement is made of. -/
inductive Statement.Symbol where
  | char (char : Char)
  | bound (value : Value)
deriving Inhabited

/-- SQL text with values bound between its characters. -/
structure Statement where
  symbols : List Statement.Symbol
deriving Inhabited

namespace Statement

/-- The statement without text and values. -/
def empty : Statement where
  symbols := []

/-- A text as symbols. -/
def chars (text : String) : List Symbol :=
  text.toList.map .char

/-- Append symbols. -/
def append (statement : Statement) (symbols : List Symbol) : Statement where
  symbols := statement.symbols ++ symbols

/-- Append SQL text. -/
def push (statement : Statement) (text : String) : Statement :=
  statement.append (chars text)

/-- A statement that starts with SQL text. -/
def ofText (text : String) : Statement :=
  empty.push text

/-- Append a placeholder for a value. -/
def bind (statement : Statement) (value : Value) : Statement :=
  statement.append [.bound value]

/-- Placeholders for values with commas between them; for no values, the text `NULL`,
so that a membership test over them stays valid SQL. -/
def listSymbols : List Value → List Symbol
  | [] => chars "NULL"
  | [value] => [.bound value]
  | value :: next :: rest => .bound value :: chars ", " ++ listSymbols (next :: rest)

/-- Append placeholders for values with commas between them. -/
def bindList (statement : Statement) (values : List Value) : Statement :=
  statement.append (listSymbols values)

/-- An identifier, which cannot be bound and so must be one that needs no quoting. -/
def identifierSymbols (text : String) : Except QueryError (List Symbol) :=
  if Text.isIdentifier text then .ok (chars text)
  else .error (.validation (.identifier text))

/-- Append an identifier. -/
def pushIdentifier (statement : Statement) (text : String) : Except QueryError Statement :=
  (identifierSymbols text).map statement.append

/-- The characters of symbols whose first placeholder has the number after `count`. -/
def renderFrom (count : Nat) : List Symbol → List Char
  | [] => []
  | .char char :: rest => char :: renderFrom count rest
  | .bound _ :: rest => '$' :: Nat.toDigits 10 (count + 1) ++ renderFrom (count + 1) rest

/-- The SQL text with placeholders `$1`, `$2` and so on. -/
def sql (statement : Statement) : String :=
  String.ofList (renderFrom 0 statement.symbols)

/-- The value a symbol binds. -/
def Symbol.value? : Symbol → Option Value
  | .char _ => none
  | .bound value => some value

theorem Symbol.value?_char (char : Char) : (Symbol.char char).value? = none := rfl

theorem Symbol.value?_bound (value : Value) : (Symbol.bound value).value? = some value := rfl

/-- The bound values, in the order of their placeholders. -/
def parameters (statement : Statement) : List Value :=
  statement.symbols.filterMap Symbol.value?

@[simp] theorem symbols_push (statement : Statement) (text : String) :
    (statement.push text).symbols = statement.symbols ++ chars text := rfl

/-- Symbols that are appended one after the other are appended at once. -/
theorem append_append (statement : Statement) (first second : List Symbol) :
    (statement.append first).append second = statement.append (first ++ second) := by
  simp [append]

/-- Appending symbols appends the values that they bind. -/
theorem parameters_append (statement : Statement) (symbols : List Symbol) :
    (statement.append symbols).parameters =
      statement.parameters ++ symbols.filterMap Symbol.value? := by
  simp [parameters, append]

/-- Text alone is rendered as it is. -/
theorem renderFrom_map_char (count : Nat) (text : List Char) :
    renderFrom count (text.map .char) = text := by
  induction text with
  | nil => rfl
  | cons char rest ih => rw [List.map_cons, renderFrom, ih]

/-- Symbols after others are rendered with their placeholders raised by the number of
values that the others bind. -/
theorem renderFrom_append (count : Nat) (first second : List Symbol) :
    renderFrom count (first ++ second) =
      renderFrom count first ++
        renderFrom (count + (first.filterMap Symbol.value?).length) second := by
  induction first generalizing count with
  | nil => simp [renderFrom]
  | cons symbol rest ih =>
      cases symbol with
      | char char =>
          rw [List.filterMap_cons_none (Symbol.value?_char char)]
          simp [renderFrom, ih]
      | bound value =>
          have raised : count + 1 + (rest.filterMap Symbol.value?).length =
              count + ((rest.filterMap Symbol.value?).length + 1) := by omega
          rw [List.filterMap_cons_some (Symbol.value?_bound value), List.length_cons]
          simp [renderFrom, ih, raised]

/-- The diagnostic text of a statement, which shows how many values are bound. -/
def diagnostic (statement : Statement) : String :=
  "Sql \x7b sql: " ++ Text.quote statement.sql ++ ", params: " ++
    Nat.repr statement.parameters.length ++ " \x7d"

end Statement

end CriteriaQuery
