import CriteriaQuery.Proofs.Pieces
import CriteriaQuery.Query.Assembly

/-!
# Queries put together in pieces

Put together piece by piece, a query gives pieces that stand for its statement, and where it
has no statement the first thing that cannot be appended is the same error.

Everything that is appended is appended in the same way, whatever stands in front of it.  So
it is enough to say what each part of a query appends, and that parts one behind the other
append what each of them does.
-/

namespace CriteriaQuery

namespace Sql

open Statement (Symbol)

/-- Pieces are made that stand for the statement, or both fail for one reason. -/
inductive Agrees : Except QueryError Sql → Except QueryError Statement → Prop where
  | made {sql : Sql} {statement : Statement} (standsFor : sql.StandsFor statement) :
      Agrees (.ok sql) (.ok statement)
  | failed (error : QueryError) : Agrees (.error error) (.error error)

theorem Agrees.congr {made : Except QueryError Sql} {first second : Except QueryError Statement}
    (agrees : Agrees made first) (same : first = second) : Agrees made second :=
  same ▸ agrees

/-- Whatever pieces stand for, an operation appends some symbols to it, or fails. -/
def Appends (append : Sql → Except QueryError Sql) (symbols : Except QueryError (List Symbol)) :
    Prop :=
  ∀ (sql : Sql) (statement : Statement), sql.StandsFor statement →
    Agrees (append sql) (symbols.map statement.append)

/-- To change what succeeds is to go on with the changed value. -/
theorem map_eq_bind {α β : Type} (change : α → β) (made : Except QueryError α) :
    made.map change = made >>= fun result => pure (change result) := by
  cases made <;> rfl

theorem appends_push (text : String) :
    Appends (fun sql => .ok (sql.push text)) (pure (Statement.chars text)) :=
  fun _ _ standsFor => .made (standsFor.push text)

theorem appends_nothing : Appends .ok (pure []) := by
  intro sql statement standsFor
  have same : statement.append [] = statement := by simp [Statement.append]
  rw [map_eq_bind, pure_bind, same]
  exact .made standsFor

namespace Appends

variable {first second : Sql → Except QueryError Sql}
  {front back : Except QueryError (List Symbol)}

theorem congr {symbols : Except QueryError (List Symbol)} (appends : Appends first front)
    (same : front = symbols) : Appends first symbols :=
  same ▸ appends

/-- Operations one behind the other append their symbols one behind the other. -/
theorem andThen (appends : Appends first front) (continued : Appends second back) :
    Appends (fun sql => first sql >>= second) (do
      let symbols ← front
      let others ← back
      return symbols ++ others) := by
  intro sql statement standsFor
  change Agrees (first sql >>= second) _
  have begun := appends sql statement standsFor
  generalize first sql = middle at begun ⊢
  cases front with
  | error error =>
      cases begun
      exact .failed error
  | ok symbols =>
      cases begun with
      | made standsFor =>
          have ended := continued _ _ standsFor
          cases back with
          | error error => exact ended
          | ok others =>
              rw [Except.map, Statement.append_append] at ended
              exact ended

/-- Text behind what is appended. -/
theorem thenPush (appends : Appends first front) (text : String) :
    Appends (fun sql => (first sql).map (·.push text)) (do
      let symbols ← front
      return symbols ++ Statement.chars text) := by
  have pushed := appends.andThen (appends_push text)
  simp only [map_eq_bind]
  exact pushed

end Appends

section Items

variable {α : Type} {pushItem : Sql → α → Except QueryError Sql}
  {image : α → Except QueryError (List Symbol)}

/-- Items are appended one behind the other. -/
theorem appends_foldlM (appends : ∀ item, Appends (pushItem · item) (image item))
    (items : List α) :
    Appends (fun sql => items.foldlM pushItem sql) (do
      let images ← items.mapM image
      return images.flatten) := by
  induction items with
  | nil => exact appends_nothing
  | cons item rest ih =>
      refine ((appends item).andThen ih).congr ?_
      simp only [List.mapM_cons, bind_assoc, pure_bind, List.flatten_cons]

/-- A list that is not empty, with a separator between its items. -/
theorem intercalate_cons_eq {β : Type} (separator first : List β) (rest : List (List β)) :
    separator.intercalate (first :: rest) = first ++ rest.flatMap (separator ++ ·) := by
  induction rest generalizing first with
  | nil => simp
  | cons second rest ih =>
      rw [List.intercalate_cons_cons, ih, List.flatMap_cons]
      simp only [List.append_assoc]

/-- What is put in front of the image of each item is in front of each of the images. -/
theorem mapM_prepend (symbols : List Symbol) (items : List α) :
    (items.mapM fun item => do
      let others ← image item
      return symbols ++ others) = (do
        let images ← items.mapM image
        return images.map (symbols ++ ·)) := by
  induction items with
  | nil => rfl
  | cons item rest ih => simp only [List.mapM_cons, ih, bind_assoc, pure_bind, List.map_cons]

/-- Items with a text in front of each. -/
theorem appends_foldlM_push (text : String)
    (appends : ∀ item, Appends (pushItem · item) (image item)) (items : List α) :
    Appends (fun sql => items.foldlM (fun sql item => pushItem (sql.push text) item) sql) (do
      let images ← items.mapM image
      return images.flatMap (Statement.chars text ++ ·)) := by
  have each (item : α) : Appends (fun sql => pushItem (sql.push text) item) (do
      let symbols ← image item
      return Statement.chars text ++ symbols) :=
    (appends_push text).andThen (appends item)
  refine (appends_foldlM each items).congr ?_
  simp only [mapM_prepend, bind_assoc, pure_bind, List.flatMap_def]

/-- Items with a text between them. -/
theorem appends_pushSeparated (separator : String)
    (appends : ∀ item, Appends (pushItem · item) (image item)) (items : List α) :
    Appends (fun sql => pushSeparated separator pushItem sql items) (do
      let images ← items.mapM image
      return (Statement.chars separator).intercalate images) := by
  cases items with
  | nil => exact appends_nothing
  | cons item rest =>
      refine ((appends item).andThen (appends_foldlM_push separator appends rest)).congr ?_
      simp only [List.mapM_cons, bind_assoc, pure_bind, intercalate_cons_eq]

end Items

/-! ## Expressions -/

theorem appends_pushName (text : String) :
    Appends (·.pushName text) (Statement.identifierSymbols text) := by
  intro sql statement standsFor
  change Agrees (sql.pushName text) _
  rw [pushName, Statement.identifierSymbols]
  by_cases identifier : Text.isIdentifier text = true
  · rw [pushIdentifier_of_identifier identifier, if_pos identifier]
    exact .made (standsFor.push text)
  · rw [pushIdentifier_of_refused identifier, if_neg identifier]
    exact .failed _

theorem StandsFor.bindValue {sql : Sql} {statement : Statement}
    (standsFor : sql.StandsFor statement) (value : Value) :
    (sql.bindValue value).StandsFor (statement.append (Statement.valueSymbols value)) := by
  cases value with
  | list items => exact standsFor.bindList items
  | null | bool | int | float | text | uuid | timestamp | json => exact standsFor.bind _

theorem appends_pushToken (parameters : OrderedMap String Value) (token : Token) :
    Appends (pushToken parameters · token) (Statement.tokenSymbols parameters token) := by
  intro sql statement standsFor
  have copied (chars : List Char) :
      (sql.push (String.ofList chars)).StandsFor (statement.append (chars.map .char)) := by
    have pushed := standsFor.push (String.ofList chars)
    rwa [Statement.push, Statement.chars, String.toList_ofList] at pushed
  cases token with
  | reference name =>
      simp only [pushToken, Statement.tokenSymbols]
      cases parameters.get? (String.ofList name) with
      | none => exact .failed _
      | some value => exact .made (standsFor.bindValue value)
  | quoted | cast | plain => exact .made (copied _)

theorem appends_pushExpression (parameters : OrderedMap String Value) (text : String) :
    Appends (pushExpression parameters · text) (Statement.expressionSymbols parameters text) :=
  appends_foldlM (appends_pushToken parameters) (Token.scan text.toList)

end Sql

namespace Query

open Sql
open Statement (chars Symbol expressionSymbols identifierSymbols)

theorem appends_pushSelection (aliases : List String) (text : String) :
    Appends (pushSelection aliases · text) (selectionSymbols aliases text) := by
  simp only [pushSelection, selectionSymbols]
  split
  · refine ((appends_pushName text).thenPush ".*").congr ?_
    rw [map_eq_bind]
  · exact appends_push text

theorem appends_pushSelections (aliases selections : List String) :
    Appends (pushSelections aliases · selections) (do
      let images ← selections.mapM (selectionSymbols aliases)
      return selectionsClause images) := by
  cases selections with
  | nil => exact appends_push "*"
  | cons first rest =>
      refine (appends_pushSeparated ", " (appends_pushSelection aliases) (first :: rest)).congr ?_
      simp only [List.mapM_cons, bind_assoc, pure_bind]
      rfl

theorem appends_pushJoins (parameters : OrderedMap String Value) (joins : List Join) :
    Appends (pushJoins parameters · joins) (do
      let images ← joins.mapM fun join => expressionSymbols parameters join.text
      return joinsClause images) := by
  have each (join : Join) : Appends (fun sql => pushExpression parameters sql join.text)
      (expressionSymbols parameters join.text) :=
    appends_pushExpression parameters join.text
  exact appends_foldlM_push " " each joins

theorem conditionsClause_cons_cons (first second : List Symbol) (rest : List (List Symbol)) :
    conditionsClause (first :: second :: rest) = chars " WHERE " ++ (chars "(" ++
      ((chars ") AND (").intercalate (first :: second :: rest) ++ chars ")")) := by
  have opened : chars " WHERE (" = chars " WHERE " ++ chars "(" := by
    simp [chars]
  have several : conditionsClause (first :: second :: rest) = chars " WHERE (" ++
      (chars ") AND (").intercalate (first :: second :: rest) ++ chars ")" := rfl
  rw [several, opened]
  simp only [List.append_assoc]

theorem appends_pushConditions (parameters : OrderedMap String Value)
    (conditions : List String) :
    Appends (pushConditions parameters · conditions) (do
      let images ← conditions.mapM (expressionSymbols parameters)
      return conditionsClause images) := by
  have expression := appends_pushExpression parameters
  have spaced := appends_push " WHERE "
  match conditions with
  | [] => exact appends_nothing
  | [single] =>
      refine (spaced.andThen (expression single)).congr ?_
      simp only [List.mapM_cons, List.mapM_nil, bind_assoc, pure_bind]
      rfl
  | first :: second :: rest =>
      have several := appends_pushSeparated ") AND (" expression (first :: second :: rest)
      refine (spaced.andThen ((appends_push "(").andThen (several.thenPush ")"))).congr ?_
      simp only [List.mapM_cons, bind_assoc, pure_bind, conditionsClause_cons_cons]

theorem appends_pushOrderings (keys : List SortKey) :
    Appends (pushOrderings · keys) (pure (orderingsClause keys)) := by
  cases keys with
  | nil => exact appends_nothing
  | cons first rest =>
      have each (key : SortKey) :
          Appends (fun sql => .ok (sql.push key.text)) (pure (chars key.text)) :=
        appends_push key.text
      refine ((appends_push " ORDER BY ").andThen
        (appends_pushSeparated ", " each (first :: rest))).congr ?_
      simp only [List.mapM_pure, pure_bind]
      rfl

theorem appends_pushBound (keyword : String) (number : Option Int64) :
    Appends (fun sql => .ok (pushBound keyword sql number))
      (pure (boundClause keyword number)) := by
  cases number with
  | none => exact appends_nothing
  | some number =>
      intro sql statement standsFor
      have bound := (standsFor.push keyword).bind (.int number)
      rw [Statement.push, Statement.bind, Statement.append_append] at bound
      exact .made bound

/-- A query is put together in pieces that stand for its statement, or both fail for one
reason. -/
theorem assemble_agrees (query : Query) : Agrees query.assemble query.statement := by
  have rest := (appends_pushBound " LIMIT " query.limit).andThen
    (appends_pushBound " OFFSET " query.offset)
  have ordered := (appends_pushOrderings query.orderings).andThen rest
  have filtered := (appends_pushConditions query.parameters query.conditions).andThen ordered
  have joined := (appends_pushJoins query.parameters query.allJoins).andThen filtered
  have aliased := (appends_push " ").andThen ((appends_pushName query.rootAlias).andThen joined)
  have tabled := (appends_push " FROM ").andThen ((appends_pushName query.table).andThen aliased)
  have selected := (appends_pushSelections query.aliases query.selections).andThen tabled
  have opened (symbols : List Symbol) :
      (Statement.ofText ((some "SELECT ").getD "")).append symbols =
        { symbols := chars "SELECT " ++ symbols } := rfl
  refine (selected _ _ (standsFor_start (some "SELECT "))).congr ?_
  simp only [Query.statement, map_eq_bind, bind_assoc, pure_bind, opened, List.append_assoc]

/-- All that can be seen of a query put together in pieces is what is seen of its statement,
and there are as many places as values. -/
theorem assemble_shown (query : Query) :
    query.assemble.map (fun sql => (sql.render, sql.params, sql.diagnostic)) =
        query.statement.map (fun statement =>
          (statement.sql, statement.parameters, statement.diagnostic)) ∧
      ∀ sql, query.assemble = .ok sql → sql.parts.count .param = sql.params.length := by
  have agrees := assemble_agrees query
  generalize query.assemble = made at agrees ⊢
  generalize query.statement = rendered at agrees ⊢
  cases agrees with
  | failed error => exact ⟨rfl, nofun⟩
  | @made sql statement standsFor =>
      refine ⟨?_, ?_⟩
      · rw [Except.map, Except.map, Sql.diagnostic, Statement.diagnostic, standsFor.render_eq,
          standsFor.params_eq]
      · intro other same
        cases same
        exact standsFor.count_param

end Query

end CriteriaQuery
