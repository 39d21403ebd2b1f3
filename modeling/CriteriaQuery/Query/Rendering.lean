import CriteriaQuery.Query.Basic
import CriteriaQuery.Query.Token
import CriteriaQuery.Statement

/-!
# Executable form of a query

The statement that runs a query. A selection that names an alias takes all
columns of that alias. Parameter references in joins and conditions become
placeholders, one for each item where the parameter is a list. The limit and the
offset are bound like any other value.

Table, root alias and selected aliases have to be identifiers, and every
reference has to name a bound parameter; sort keys and other selections are taken
as they are.
-/

namespace CriteriaQuery

namespace Statement

/-- A value where a parameter refers to it: a list item by item, any other value as one. -/
def valueSymbols : Value → List Symbol
  | .list items => listSymbols items
  | scalar => [.bound scalar]

/-- A token with the value that it refers to. -/
def tokenSymbols (parameters : OrderedMap String Value) : Token → Except QueryError (List Symbol)
  | .reference name =>
      match parameters.get? (String.ofList name) with
      | some value => .ok (valueSymbols value)
      | none => .error (.configuration (.unboundParameter (String.ofList name)))
  | other => .ok (other.chars.map .char)

/-- An expression with the values that it refers to; the first unbound reference fails. -/
def expressionSymbols (parameters : OrderedMap String Value) (text : String) :
    Except QueryError (List Symbol) := do
  let tokens ← (Token.scan text.toList).mapM (tokenSymbols parameters)
  return tokens.flatten

end Statement

namespace Query

open Statement

/-- One selection: all columns of a known alias, or the text as it is. -/
def selectionSymbols (aliases : List String) (text : String) :
    Except QueryError (List Symbol) :=
  if text ∈ aliases then (identifierSymbols text).map (· ++ chars ".*")
  else .ok (chars text)

/-- Selections with commas between them, or everything where there is none. -/
def selectionsClause : List (List Symbol) → List Symbol
  | [] => chars "*"
  | selections => (chars ", ").intercalate selections

/-- Joins with a space in front of each. -/
def joinsClause (joins : List (List Symbol)) : List Symbol :=
  joins.flatMap (chars " " ++ ·)

/-- Conditions; several of them are each put in parentheses. -/
def conditionsClause : List (List Symbol) → List Symbol
  | [] => []
  | [single] => chars " WHERE " ++ single
  | several => chars " WHERE (" ++ (chars ") AND (").intercalate several ++ chars ")"

/-- Sort keys. -/
def orderingsClause : List SortKey → List Symbol
  | [] => []
  | keys => chars " ORDER BY " ++ (chars ", ").intercalate (keys.map fun key => chars key.text)

/-- A keyword and a number bound to it, if there is one. -/
def boundClause (keyword : String) : Option Int64 → List Symbol
  | none => []
  | some number => chars keyword ++ [.bound (.int number)]

/-- The statement that runs a query. -/
def statement (query : Query) : Except QueryError Statement := do
  let selections ← query.selections.mapM (selectionSymbols query.aliases)
  let table ← identifierSymbols query.table
  let rootAlias ← identifierSymbols query.rootAlias
  let joins ← query.allJoins.mapM fun join => expressionSymbols query.parameters join.text
  let conditions ← query.conditions.mapM (expressionSymbols query.parameters)
  return {
    symbols :=
      chars "SELECT " ++ selectionsClause selections ++ chars " FROM " ++ table ++ chars " " ++
        rootAlias ++ joinsClause joins ++ conditionsClause conditions ++
        orderingsClause query.orderings ++ boundClause " LIMIT " query.limit ++
        boundClause " OFFSET " query.offset }

end Query

end CriteriaQuery
