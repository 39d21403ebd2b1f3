import CriteriaQuery.Query.Basic
import CriteriaQuery.Query.Token
import CriteriaQuery.Sql

/-!
# A query put together in pieces

The SQL that runs a query, appended piece by piece: what is selected, the table and its alias,
joins, conditions, sort keys and at last the limit and the offset. The first thing that cannot
be appended ends the whole, and nothing of it is kept.
-/

namespace CriteriaQuery

namespace Sql

/-- Append an identifier, or fail. -/
def pushName (sql : Sql) (text : String) : Except QueryError Sql :=
  match sql.pushIdentifier text with
  | (.ok _, after) => .ok after
  | (.error error, _) => .error error

/-- Append a value where a parameter refers to it: a list item by item, any other value as
one. -/
def bindValue (sql : Sql) : Value → Sql
  | .list items => sql.bindList items
  | scalar => sql.bind scalar

/-- Append a token with the value that it refers to. -/
def pushToken (parameters : OrderedMap String Value) (sql : Sql) :
    Token → Except QueryError Sql
  | .reference name =>
      match parameters.get? (String.ofList name) with
      | some value => .ok (sql.bindValue value)
      | none => .error (.configuration (.unboundParameter (String.ofList name)))
  | other => .ok (sql.push (String.ofList other.chars))

/-- Append an expression with the values that it refers to. -/
def pushExpression (parameters : OrderedMap String Value) (sql : Sql) (text : String) :
    Except QueryError Sql :=
  (Token.scan text.toList).foldlM (pushToken parameters) sql

/-- Append items with a text between them. -/
def pushSeparated {α : Type} (separator : String) (pushItem : Sql → α → Except QueryError Sql)
    (sql : Sql) : List α → Except QueryError Sql
  | [] => .ok sql
  | first :: rest => do
      let begun ← pushItem sql first
      rest.foldlM (fun sql item => pushItem (sql.push separator) item) begun

/-- Append a keyword and bind a number behind it, if there is one. -/
def pushBound (keyword : String) (sql : Sql) : Option Int64 → Sql
  | none => sql
  | some number => (sql.push keyword).bind (.int number)

end Sql

namespace Query

open Sql

/-- Append a selection: all columns of a known alias, or the text as it is. -/
def pushSelection (aliases : List String) (sql : Sql) (text : String) : Except QueryError Sql :=
  if text ∈ aliases then (sql.pushName text).map (·.push ".*")
  else .ok (sql.push text)

/-- Append the selections, or everything where there is none. -/
def pushSelections (aliases : List String) (sql : Sql) : List String → Except QueryError Sql
  | [] => .ok (sql.push "*")
  | selections => pushSeparated ", " (pushSelection aliases) sql selections

/-- Append joins with a space in front of each. -/
def pushJoins (parameters : OrderedMap String Value) (sql : Sql) (joins : List Join) :
    Except QueryError Sql :=
  joins.foldlM (fun sql join => pushExpression parameters (sql.push " ") join.text) sql

/-- Append conditions; several of them are each put in parentheses. -/
def pushConditions (parameters : OrderedMap String Value) (sql : Sql) :
    List String → Except QueryError Sql
  | [] => .ok sql
  | [single] => pushExpression parameters (sql.push " WHERE ") single
  | several =>
      (pushSeparated ") AND (" (pushExpression parameters) ((sql.push " WHERE ").push "(")
        several).map (·.push ")")

/-- Append sort keys. -/
def pushOrderings (sql : Sql) : List SortKey → Except QueryError Sql
  | [] => .ok sql
  | keys =>
      pushSeparated ", " (fun sql key => .ok (sql.push key.text)) (sql.push " ORDER BY ") keys

/-- The SQL that runs a query, in pieces. -/
def assemble (query : Query) : Except QueryError Sql := do
  let selected ← pushSelections query.aliases (.new "SELECT ") query.selections
  let tabled ← (selected.push " FROM ").pushName query.table
  let aliased ← (tabled.push " ").pushName query.rootAlias
  let joined ← pushJoins query.parameters aliased query.allJoins
  let filtered ← pushConditions query.parameters joined query.conditions
  let ordered ← pushOrderings filtered query.orderings
  return pushBound " OFFSET " (pushBound " LIMIT " ordered query.limit) query.offset

end Query

end CriteriaQuery
