import CriteriaQuery.Proofs.Symbols

/-!
# Building statements

A statement is built step by step: by texts, by single values, by lists of values and by
identifiers, of which only valid ones are taken.  Each step appends symbols that do not
depend on what was built before, so a whole run appends the symbols of its steps.

Every statement is texts with bound values between them.  Rendering keeps the texts and
numbers the values, so appended symbols are rendered with their numbers raised by the number
of values in front of them.
-/

namespace CriteriaQuery

namespace Statement

/-- A step of building a statement. -/
inductive Step where
  | push (text : String)
  | bind (value : Value)
  | bindList (values : List Value)
  | identifier (text : String)

namespace Step

/-- What a step makes of a statement, or why it fails. -/
def run (statement : Statement) : Step → Except QueryError Statement
  | push text => .ok (statement.push text)
  | bind value => .ok (statement.bind value)
  | bindList values => .ok (statement.bindList values)
  | identifier text => statement.pushIdentifier text

/-- The symbols that a step appends.  A text that is no identifier appends none. -/
def symbols : Step → List Symbol
  | push text => chars text
  | bind value => [.bound value]
  | bindList values => listSymbols values
  | identifier text => if Text.isIdentifier text then chars text else []

/-- The values that a step binds. -/
def values : Step → List Value
  | push _ => []
  | bind value => [value]
  | bindList values => values
  | identifier _ => []

theorem boundValues_symbols (step : Step) : boundValues step.symbols = step.values := by
  cases step with
  | push text => exact boundValues_chars text
  | bind value => rfl
  | bindList values => exact boundValues_listSymbols values
  | identifier text =>
      simp only [symbols, values]
      split
      · exact boundValues_chars text
      · rfl

end Step

/-- The statement behind a step.  One that fails leaves the statement as it was. -/
def advance (statement : Statement) (step : Step) : Statement :=
  match step.run statement with
  | .ok changed => changed
  | .error _ => statement

/-- The statement behind all of some steps, failing ones among them. -/
def build (statement : Statement) (steps : List Step) : Statement :=
  steps.foldl advance statement

/-- A step appends its symbols. -/
theorem advance_eq (statement : Statement) (step : Step) :
    statement.advance step = statement.append step.symbols := by
  cases step with
  | push | bind | bindList => rfl
  | identifier text =>
      by_cases identifier : Text.isIdentifier text = true
      · simp [advance, Step.run, pushIdentifier, identifierSymbols, Step.symbols, identifier,
          Except.map]
      · simp [advance, Step.run, pushIdentifier, identifierSymbols, Step.symbols, identifier,
          Except.map, append]

/-- Steps append their symbols one after the other. -/
theorem symbols_build (statement : Statement) (steps : List Step) :
    (statement.build steps).symbols = statement.symbols ++ steps.flatMap Step.symbols := by
  induction steps generalizing statement with
  | nil => simp [build]
  | cons step rest ih =>
      have continued := ih (statement.advance step)
      rw [advance_eq] at continued
      simp only [build, List.foldl_cons, advance_eq] at continued ⊢
      rw [continued, append, List.flatMap_cons, List.append_assoc]

/-- The values of a run are bound in the order of its steps. -/
theorem parameters_build (statement : Statement) (steps : List Step) :
    (statement.build steps).parameters = statement.parameters ++ steps.flatMap Step.values := by
  have bound : boundValues (steps.flatMap Step.symbols) = steps.flatMap Step.values := by
    simp [boundValues_flatMap, Step.boundValues_symbols]
  have outright : (statement.build steps).parameters =
      boundValues (statement.build steps).symbols := rfl
  rw [outright, symbols_build, boundValues_append, bound]
  rfl

/-- A text in front of other symbols is rendered as it is. -/
theorem renderFrom_chars_append (count : Nat) (text : String) (symbols : List Symbol) :
    renderFrom count (chars text ++ symbols) = text.toList ++ renderFrom count symbols := by
  have nothing : (chars text).filterMap Symbol.value? = [] := boundValues_chars text
  rw [renderFrom_append, nothing, chars, renderFrom_map_char]
  rfl

/-- The text in front of the first bound value, and the texts behind each of them. -/
def texts : List Symbol → List Char × List (List Char)
  | [] => ([], [])
  | .char char :: rest => (char :: (texts rest).1, (texts rest).2)
  | .bound _ :: rest => ([], (texts rest).1 :: (texts rest).2)

/-- Texts with placeholders between them, the first of which has the number after `count`. -/
def numbered (count : Nat) (texts : List Char × List (List Char)) : List Char :=
  texts.1 ++ ((List.range' (count + 1) texts.2.length).zip texts.2).flatMap fun place =>
    '$' :: Nat.toDigits 10 place.1 ++ place.2

/-- Rendering numbers the values between the texts. -/
theorem renderFrom_eq_numbered (count : Nat) (symbols : List Symbol) :
    renderFrom count symbols = numbered count (texts symbols) := by
  induction symbols generalizing count with
  | nil => rfl
  | cons symbol rest ih =>
      cases symbol with
      | char char => exact congrArg (char :: ·) (ih count)
      | bound value => simp [renderFrom, ih, numbered, texts, List.range'_succ]

/-- Symbols that are appended are rendered with their numbers raised. -/
theorem sql_append (statement : Statement) (symbols : List Symbol) :
    (statement.append symbols).sql.toList =
      statement.sql.toList ++ numbered statement.parameters.length (texts symbols) := by
  have raised := renderFrom_append 0 statement.symbols symbols
  rw [Nat.zero_add, renderFrom_eq_numbered _ symbols] at raised
  simpa [sql, append, parameters] using raised

end Statement

end CriteriaQuery
