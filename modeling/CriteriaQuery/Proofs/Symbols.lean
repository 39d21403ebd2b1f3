import CriteriaQuery.Proofs.Composition
import CriteriaQuery.Query.Rendering

/-!
# Symbols of a statement

Rendering may fail, and it fails part by part.  Where it succeeds the statement is given
outright: this module writes its symbols down as a function of the query, with every
reference replaced by the value that is bound to it.
-/

namespace CriteriaQuery

namespace Value

/-- The values that a reference to a parameter binds: the items of a list, and any other
value itself. -/
def bindings : Value → List Value
  | .list items => items
  | scalar => [scalar]

end Value

namespace Statement

/-- The values that symbols bind, in order. -/
def boundValues (symbols : List Symbol) : List Value :=
  symbols.filterMap Symbol.value?

@[simp] theorem boundValues_nil : boundValues [] = [] := rfl

@[simp] theorem boundValues_append (first second : List Symbol) :
    boundValues (first ++ second) = boundValues first ++ boundValues second :=
  List.filterMap_append

@[simp] theorem boundValues_chars (text : String) : boundValues (chars text) = [] := by
  simp [boundValues, chars, Symbol.value?]

@[simp] theorem boundValues_bound (value : Value) (rest : List Symbol) :
    boundValues (.bound value :: rest) = value :: boundValues rest := rfl

theorem boundValues_flatMap {α : Type} (image : α → List Symbol) (items : List α) :
    boundValues (items.flatMap image) = items.flatMap fun item => boundValues (image item) :=
  List.filterMap_flatMap

theorem boundValues_intercalate (text : String) (images : List (List Symbol)) :
    boundValues ((chars text).intercalate images) = images.flatMap boundValues := by
  induction images with
  | nil => rfl
  | cons first rest ih =>
      cases rest with
      | nil => simp
      | cons second more =>
          rw [List.intercalate_cons_cons]
          simp [ih]

@[simp] theorem boundValues_listSymbols (items : List Value) :
    boundValues (listSymbols items) = items := by
  fun_induction listSymbols items with
  | case1 => exact boundValues_chars "NULL"
  | case2 value => rfl
  | case3 value next rest ih => simp [ih]

/-- The symbols of a value bind what a reference to it binds. -/
@[simp] theorem boundValues_valueSymbols (value : Value) :
    boundValues (valueSymbols value) = value.bindings := by
  cases value with
  | list items => exact boundValues_listSymbols items
  | null | bool | int | float | text | uuid | timestamp | json => rfl

/-- A value is rendered like the list of the values that it binds. -/
theorem valueSymbols_eq (value : Value) : valueSymbols value = listSymbols value.bindings := by
  cases value <;> rfl

/-- Symbols of values can be told apart exactly as far as what they bind. -/
theorem valueSymbols_inj {left right : Value} :
    valueSymbols left = valueSymbols right ↔ left.bindings = right.bindings := by
  constructor
  · intro same
    have bound := congrArg boundValues same
    rwa [boundValues_valueSymbols, boundValues_valueSymbols] at bound
  · intro same
    rw [valueSymbols_eq, valueSymbols_eq, same]

/-- The symbols of a token.  A reference without a value, at which rendering stops, has
none. -/
def tokenImage (parameters : OrderedMap String Value) : Token → List Symbol
  | .reference name => ((parameters.get? (String.ofList name)).map valueSymbols).getD []
  | other => other.chars.map .char

/-- The symbols of an expression, token by token. -/
def expressionImage (parameters : OrderedMap String Value) (text : String) : List Symbol :=
  (Token.scan text.toList).flatMap (tokenImage parameters)

theorem expressionSymbols_eq_ok {parameters : OrderedMap String Value} {text : String}
    {symbols : List Symbol} (rendered : expressionSymbols parameters text = .ok symbols) :
    symbols = expressionImage parameters text := by
  rcases Except.bind_eq_ok rendered with ⟨tokens, images, last⟩
  cases last
  have computed : tokens = (Token.scan text.toList).map (tokenImage parameters) := by
    refine mapM_eq_ok (fun token result found => ?_) images
    cases token with
    | reference name =>
        simp only [tokenSymbols] at found
        cases bound : parameters.get? (String.ofList name) with
        | none => simp [bound] at found
        | some value => simpa [bound, tokenImage] using found.symm
    | quoted | cast | plain => exact (Except.ok.inj found).symm
  rw [computed, expressionImage, List.flatMap_def]

theorem identifierSymbols_eq_ok {text : String} {symbols : List Symbol}
    (rendered : identifierSymbols text = .ok symbols) : symbols = chars text := by
  simp only [identifierSymbols] at rendered
  split at rendered
  · exact (Except.ok.inj rendered).symm
  · cases rendered

/-- Only identifiers have symbols. -/
theorem isIdentifier_of_identifierSymbols {text : String} {symbols : List Symbol}
    (rendered : identifierSymbols text = .ok symbols) : Text.isIdentifier text := by
  simp only [identifierSymbols] at rendered
  split at rendered
  · next identifier => exact identifier
  · cases rendered

end Statement

namespace Query

open Statement

/-- The text of a selection: all columns of a known alias, or the selection as it is. -/
def selectionText (aliases : List String) (text : String) : String :=
  if text ∈ aliases then text ++ ".*" else text

/-- The symbols of the joins of a query, group by group. -/
def joinImages (query : Query) : List (List Symbol) :=
  query.allJoins.map fun join => expressionImage query.parameters join.text

/-- The symbols of the conditions of a query. -/
def conditionImages (query : Query) : List (List Symbol) :=
  query.conditions.map (expressionImage query.parameters)

/-- The symbols in front of the joins. -/
def headSymbols (query : Query) : List Symbol :=
  chars "SELECT " ++
    selectionsClause (query.selections.map fun text => chars (selectionText query.aliases text)) ++
    chars " FROM " ++ chars query.table ++ chars " " ++ chars query.rootAlias

/-- The symbols behind the conditions. -/
def tailSymbols (query : Query) : List Symbol :=
  orderingsClause query.orderings ++ boundClause " LIMIT " query.limit ++
    boundClause " OFFSET " query.offset

theorem selectionSymbols_eq_ok {aliases : List String} {text : String} {symbols : List Symbol}
    (rendered : selectionSymbols aliases text = .ok symbols) :
    symbols = chars (selectionText aliases text) := by
  simp only [selectionSymbols] at rendered
  simp only [selectionText]
  split at rendered
  · next known =>
      rw [if_pos known]
      cases identified : identifierSymbols text with
      | error error => simp [identified, Except.map] at rendered
      | ok found =>
          simp only [identified, Except.map, Except.ok.injEq] at rendered
          rw [← rendered, identifierSymbols_eq_ok identified]
          simp [chars]
  · next unknown =>
      rw [if_neg unknown]
      exact (Except.ok.inj rendered).symm

/-- A statement is put together from the parts of its query, all of which can be rendered. -/
theorem parts_of_statement {query : Query} {statement : Statement}
    (rendered : query.statement = .ok statement) :
    ∃ selections table rootAlias joins conditions,
      query.selections.mapM (selectionSymbols query.aliases) = .ok selections ∧
      identifierSymbols query.table = .ok table ∧
      identifierSymbols query.rootAlias = .ok rootAlias ∧
      (query.allJoins.mapM fun join => expressionSymbols query.parameters join.text) =
        .ok joins ∧
      query.conditions.mapM (expressionSymbols query.parameters) = .ok conditions ∧
      statement.symbols =
        chars "SELECT " ++ selectionsClause selections ++ chars " FROM " ++ table ++
          chars " " ++ rootAlias ++ joinsClause joins ++ conditionsClause conditions ++
          query.tailSymbols := by
  simp only [Query.statement] at rendered
  rcases Except.bind_eq_ok rendered with ⟨selections, selected, rendered⟩
  rcases Except.bind_eq_ok rendered with ⟨table, tableRead, rendered⟩
  rcases Except.bind_eq_ok rendered with ⟨rootAlias, aliasRead, rendered⟩
  rcases Except.bind_eq_ok rendered with ⟨joins, joined, rendered⟩
  rcases Except.bind_eq_ok rendered with ⟨conditions, conditioned, rendered⟩
  cases rendered
  refine ⟨selections, table, rootAlias, joins, conditions, selected, tableRead, aliasRead,
    joined, conditioned, ?_⟩
  simp [tailSymbols]

/-- The symbols of a statement, outright. -/
theorem symbols_of_statement {query : Query} {statement : Statement}
    (rendered : query.statement = .ok statement) :
    statement.symbols =
      query.headSymbols ++ joinsClause query.joinImages ++
        conditionsClause query.conditionImages ++ query.tailSymbols := by
  rcases parts_of_statement rendered with ⟨selections, table, rootAlias, joins, conditions,
    selected, tableRead, aliasRead, joined, conditioned, symbols⟩
  have selectionsGiven := mapM_eq_ok (fun _ _ => selectionSymbols_eq_ok) selected
  have joinsGiven : joins = query.joinImages :=
    mapM_eq_ok (fun _ _ => expressionSymbols_eq_ok) joined
  have conditionsGiven : conditions = query.conditionImages :=
    mapM_eq_ok (fun _ _ => expressionSymbols_eq_ok) conditioned
  rw [symbols, selectionsGiven, joinsGiven, conditionsGiven, identifierSymbols_eq_ok tableRead,
    identifierSymbols_eq_ok aliasRead, headSymbols]

@[simp] theorem boundValues_joinsClause (images : List (List Symbol)) :
    boundValues (joinsClause images) = images.flatMap boundValues := by
  simp [joinsClause, boundValues_flatMap]

@[simp] theorem boundValues_conditionsClause (images : List (List Symbol)) :
    boundValues (conditionsClause images) = images.flatMap boundValues := by
  simp only [conditionsClause]
  split
  · rfl
  · simp
  · simp [boundValues_intercalate]

@[simp] theorem boundValues_orderingsClause (keys : List SortKey) :
    boundValues (orderingsClause keys) = [] := by
  simp only [orderingsClause]
  split
  · rfl
  · simp [boundValues_intercalate, List.flatMap_map]

@[simp] theorem boundValues_boundClause (keyword : String) (number : Option Int64) :
    boundValues (boundClause keyword number) = number.toList.map .int := by
  cases number with
  | none => rfl
  | some number => simp [boundClause]

/-- Nothing in front of the joins is bound. -/
@[simp] theorem boundValues_headSymbols (query : Query) :
    boundValues query.headSymbols = [] := by
  have selections : boundValues (selectionsClause
      (query.selections.map fun text => chars (selectionText query.aliases text))) = [] := by
    simp only [selectionsClause]
    split
    · exact boundValues_chars "*"
    · simp [boundValues_intercalate, List.flatMap_map]
  simp [headSymbols, selections]

end Query

end CriteriaQuery
