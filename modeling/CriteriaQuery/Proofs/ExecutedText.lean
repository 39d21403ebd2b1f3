import CriteriaQuery.Proofs.References
import CriteriaQuery.Query.Basic

/-!
# Executed and canonical text

A query has two texts: the one that is executed, with placeholders, and the canonical one,
with the names of parameters.  Both are made of the same pieces.  A piece is copied into
both, or it is one of the three things that are executed otherwise than they are shown: a
reference to a parameter, an alias of which all columns are taken, and the limit and the
offset.
-/

namespace CriteriaQuery

open Statement

/-- A piece of a query that has a text to execute and a text to show. -/
inductive Piece where
  | copied (text : String)
  | reference (name : String)
  | columns (ofAlias : String)
  | bound (keyword : String) (number : Int64)
deriving DecidableEq

namespace Piece

/-- A piece as it is executed.  A reference becomes placeholders for its value, or `NULL`. -/
def executed (parameters : OrderedMap String Value) : Piece → List Symbol
  | copied text => chars text
  | reference name => ((parameters.get? name).map valueSymbols).getD []
  | columns ofAlias => chars ofAlias ++ chars ".*"
  | bound keyword number => chars keyword ++ [.bound (.int number)]

/-- A piece as it is shown. -/
def shown : Piece → List Char
  | copied text => text.toList
  | reference name => ':' :: name.toList
  | columns ofAlias => ofAlias.toList
  | bound _ _ => []

@[simp] theorem executed_copied (parameters : OrderedMap String Value) (text : String) :
    (copied text).executed parameters = chars text := rfl

@[simp] theorem shown_copied (text : String) : (copied text).shown = text.toList := rfl

/-- The name that a piece refers to. -/
def name? : Piece → Option String
  | reference name => some name
  | _ => none

/-- The alias of which a piece takes all columns. -/
def alias? : Piece → Option String
  | columns ofAlias => some ofAlias
  | _ => none

/-- The keyword and the number of a piece that is not shown. -/
def bound? : Piece → Option (String × Int64)
  | bound keyword number => some (keyword, number)
  | _ => none

/-- A token as a piece. -/
def ofToken : Token → Piece
  | .reference name => reference (String.ofList name)
  | other => copied (String.ofList other.chars)

theorem executed_ofToken (parameters : OrderedMap String Value) (token : Token) :
    (ofToken token).executed parameters = tokenImage parameters token := by
  cases token with
  | reference name => rfl
  | quoted | cast | plain => simp [ofToken, executed, tokenImage, chars]

theorem shown_ofToken (token : Token) : (ofToken token).shown = token.chars := by
  cases token with
  | reference name => simp [ofToken, shown, Token.chars]
  | quoted | cast | plain => simp [ofToken, shown]

theorem name?_ofToken (token : Token) : (ofToken token).name? = token.name? := by
  cases token <;> rfl

/-- The pieces of an expression. -/
def ofExpression (text : String) : List Piece :=
  (Token.scan text.toList).map ofToken

/-- An expression is executed with the values of its references. -/
theorem executed_ofExpression (parameters : OrderedMap String Value) (text : String) :
    (ofExpression text).flatMap (executed parameters) = expressionImage parameters text := by
  simp only [ofExpression, expressionImage, List.flatMap_map, executed_ofToken]

/-- An expression is shown as it was written. -/
theorem shown_ofExpression (text : String) : (ofExpression text).flatMap shown = text.toList := by
  simp only [ofExpression, List.flatMap_map, shown_ofToken, Token.flatMap_chars_scan]

theorem filterMap_name?_ofExpression (text : String) :
    (ofExpression text).filterMap name? = Token.references text := by
  have same : name? ∘ ofToken = Token.name? := funext name?_ofToken
  rw [ofExpression, List.filterMap_map, Token.references, Token.references_scan, same]

/-- What pieces with other pieces between them become is put together in the same way. -/
theorem flatMap_intercalate {α β : Type} (image : α → List β) (separator : List α)
    (items : List (List α)) :
    (separator.intercalate items).flatMap image =
      (separator.flatMap image).intercalate (items.map (List.flatMap image)) := by
  induction items with
  | nil => rfl
  | cons first rest ih =>
      cases rest with
      | nil => simp
      | cons second more =>
          rw [List.intercalate_cons_cons, List.flatMap_append, List.flatMap_append, ih]
          simp

end Piece

namespace Query

/-- A selection as a piece. -/
def selectionPiece (aliases : List String) (text : String) : Piece :=
  if text ∈ aliases then .columns text else .copied text

/-- Selections with commas between them. -/
def selectionsPieces (aliases selections : List String) : List Piece :=
  [Piece.copied ", "].intercalate (selections.map fun text => [selectionPiece aliases text])

/-- Joins with a space in front of each. -/
def joinsPieces (joins : List Join) : List Piece :=
  joins.flatMap fun join => .copied " " :: Piece.ofExpression join.text

/-- Conditions; several of them are each put in parentheses. -/
def conditionsPieces : List String → List Piece
  | [] => []
  | [single] => .copied " WHERE " :: Piece.ofExpression single
  | several =>
      .copied " WHERE (" ::
        ([Piece.copied ") AND ("].intercalate (several.map Piece.ofExpression) ++ [.copied ")"])

/-- Sort keys. -/
def orderingsPieces : List SortKey → List Piece
  | [] => []
  | keys =>
      .copied " ORDER BY " ::
        [Piece.copied ", "].intercalate (keys.map fun key => [.copied key.text])

/-- A keyword with a number, if there is one. -/
def boundPieces (keyword : String) (number : Option Int64) : List Piece :=
  number.toList.map (.bound keyword)

/-- The pieces of a query up to the limit. -/
def textPieces (query : Query) : List Piece :=
  .copied "SELECT " :: selectionsPieces query.aliases query.selections ++
    [.copied " FROM ", .copied query.table, .copied " ", .copied query.rootAlias] ++
    joinsPieces query.allJoins ++ conditionsPieces query.conditions ++
    orderingsPieces query.orderings

/-- The pieces of a query. -/
def pieces (query : Query) : List Piece :=
  query.textPieces ++ boundPieces " LIMIT " query.limit ++ boundPieces " OFFSET " query.offset

section Executed

variable (parameters : OrderedMap String Value)

theorem executed_selectionsPieces (aliases : List String) {selections : List String}
    (selected : selections ≠ []) :
    (selectionsPieces aliases selections).flatMap (Piece.executed parameters) =
      selectionsClause (selections.map fun text => chars (selectionText aliases text)) := by
  have piece (text : String) :
      (selectionPiece aliases text).executed parameters = chars (selectionText aliases text) := by
    simp only [selectionPiece, selectionText]
    split
    · simp [Piece.executed, chars]
    · rfl
  rw [selectionsPieces, Piece.flatMap_intercalate, List.map_map]
  cases selections with
  | nil => exact absurd rfl selected
  | cons first rest => simp only [selectionsClause, List.map_cons, List.flatMap_singleton,
      Function.comp_def, piece, Piece.executed_copied]

theorem executed_joinsPieces (joins : List Join) :
    (joinsPieces joins).flatMap (Piece.executed parameters) =
      joinsClause (joins.map fun join => expressionImage parameters join.text) := by
  simp [joinsPieces, joinsClause, List.flatMap_assoc, List.flatMap_map,
    Piece.executed_ofExpression]

theorem executed_conditionsPieces (conditions : List String) :
    (conditionsPieces conditions).flatMap (Piece.executed parameters) =
      conditionsClause (conditions.map (expressionImage parameters)) := by
  match conditions with
  | [] => rfl
  | [single] =>
      simp [conditionsPieces, conditionsClause, Piece.executed_ofExpression]
  | first :: second :: rest =>
      simp [conditionsPieces, conditionsClause, Piece.executed_ofExpression,
        Piece.flatMap_intercalate, Function.comp_def]

theorem executed_orderingsPieces (keys : List SortKey) :
    (orderingsPieces keys).flatMap (Piece.executed parameters) = orderingsClause keys := by
  cases keys with
  | nil => rfl
  | cons first rest =>
      simp only [orderingsPieces, orderingsClause, List.flatMap_cons, List.flatMap_nil,
        List.append_nil, Piece.flatMap_intercalate, List.map_map, Function.comp_def,
        Piece.executed_copied]

theorem executed_boundPieces (keyword : String) (number : Option Int64) :
    (boundPieces keyword number).flatMap (Piece.executed parameters) =
      boundClause keyword number := by
  cases number with
  | none => rfl
  | some number => simp [boundPieces, boundClause, Piece.executed]

end Executed

/-- The symbols of a statement are those of the pieces of its query. -/
theorem executed_pieces {query : Query} {statement : Statement}
    (selected : query.selections ≠ []) (rendered : query.statement = .ok statement) :
    query.pieces.flatMap (Piece.executed query.parameters) = statement.symbols := by
  rw [symbols_of_statement rendered]
  simp [pieces, textPieces, executed_selectionsPieces _ _ selected, executed_joinsPieces,
    executed_conditionsPieces, executed_orderingsPieces, executed_boundPieces, headSymbols,
    tailSymbols, joinImages, conditionImages]

section Shown

theorem shown_selectionsPieces (aliases selections : List String) :
    (selectionsPieces aliases selections).flatMap Piece.shown =
      (", ".intercalate selections).toList := by
  have piece (text : String) : (selectionPiece aliases text).shown = text.toList := by
    simp only [selectionPiece]
    split <;> rfl
  rw [selectionsPieces, Piece.flatMap_intercalate, List.map_map, String.toList_intercalate]
  simp only [List.flatMap_singleton, Function.comp_def, piece, Piece.shown_copied]

theorem shown_joinsPieces (joins : List Join) :
    (joinsPieces joins).flatMap Piece.shown = (joinsText joins).toList := by
  simp [joinsPieces, joinsText, List.flatMap_assoc, List.flatMap_map,
    Piece.shown_ofExpression]

theorem shown_conditionsPieces (conditions : List String) :
    (conditionsPieces conditions).flatMap Piece.shown = (conditionsText conditions).toList := by
  match conditions with
  | [] => rfl
  | [single] => simp [conditionsPieces, conditionsText, Piece.shown_ofExpression]
  | first :: second :: rest =>
      simp [conditionsPieces, conditionsText, Piece.shown_ofExpression,
        Piece.flatMap_intercalate, Function.comp_def]

theorem shown_orderingsPieces (keys : List SortKey) :
    (orderingsPieces keys).flatMap Piece.shown = (orderingsText keys).toList := by
  cases keys with
  | nil => rfl
  | cons first rest =>
      simp only [orderingsPieces, orderingsText, List.flatMap_cons, List.flatMap_nil,
        List.append_nil, Piece.flatMap_intercalate, List.map_map, Function.comp_def,
        Piece.shown_copied, String.toList_append, String.toList_intercalate]

theorem shown_boundPieces (keyword : String) (number : Option Int64) :
    (boundPieces keyword number).flatMap Piece.shown = [] := by
  cases number <;> rfl

/-- The canonical text of a query is what its pieces show. -/
theorem shown_pieces (query : Query) :
    query.pieces.flatMap Piece.shown = query.canonicalText.toList := by
  unfold canonicalText
  simp [pieces, textPieces, shown_selectionsPieces, shown_joinsPieces, shown_conditionsPieces,
    shown_orderingsPieces, shown_boundPieces]

end Shown

section Special

variable {β : Type} {read : Piece → Option β} (skips : ∀ text, read (.copied text) = none)

include skips

theorem filterMap_intercalate (text : String) (items : List (List Piece)) :
    ([Piece.copied text].intercalate items).filterMap read =
      items.flatMap (List.filterMap read) := by
  induction items with
  | nil => rfl
  | cons first rest ih =>
      cases rest with
      | nil => simp
      | cons second more =>
          rw [List.intercalate_cons_cons, List.filterMap_append, List.filterMap_append, ih]
          simp [skips]

theorem filterMap_selectionsPieces (aliases selections : List String) :
    (selectionsPieces aliases selections).filterMap read =
      selections.filterMap fun text => read (selectionPiece aliases text) := by
  rw [selectionsPieces, filterMap_intercalate skips, List.flatMap_map, ← List.filterMap_flatMap,
    ← List.map_eq_flatMap, List.filterMap_map]
  rfl

theorem filterMap_joinsPieces (joins : List Join) :
    (joinsPieces joins).filterMap read =
      joins.flatMap fun join => (Piece.ofExpression join.text).filterMap read := by
  simp [joinsPieces, List.filterMap_flatMap, skips]

theorem filterMap_conditionsPieces (conditions : List String) :
    (conditionsPieces conditions).filterMap read =
      conditions.flatMap fun text => (Piece.ofExpression text).filterMap read := by
  match conditions with
  | [] => rfl
  | [single] => simp [conditionsPieces, skips]
  | first :: second :: rest =>
      simp [conditionsPieces, skips, filterMap_intercalate skips, List.flatMap_map]

theorem filterMap_orderingsPieces (keys : List SortKey) :
    (orderingsPieces keys).filterMap read = [] := by
  cases keys with
  | nil => rfl
  | cons first rest =>
      simp [orderingsPieces, skips, filterMap_intercalate skips, List.flatMap_map]

/-- The pieces that are not copied stand in the selections, in the joins and in the
conditions. -/
theorem filterMap_textPieces (query : Query) :
    query.textPieces.filterMap read =
      query.selections.filterMap (fun text => read (selectionPiece query.aliases text)) ++
        (query.allJoins.flatMap fun join => (Piece.ofExpression join.text).filterMap read) ++
        query.conditions.flatMap fun text => (Piece.ofExpression text).filterMap read := by
  simp [textPieces, filterMap_selectionsPieces skips, filterMap_joinsPieces skips,
    filterMap_conditionsPieces skips, filterMap_orderingsPieces skips, skips]

end Special

/-- What is read in no number is read up to the limit. -/
theorem filterMap_pieces {β : Type} {read : Piece → Option β}
    (unbound : ∀ keyword number, read (.bound keyword number) = none) (query : Query) :
    query.pieces.filterMap read = query.textPieces.filterMap read := by
  have numbers (keyword : String) (number : Option Int64) :
      (boundPieces keyword number).filterMap read = [] := by
    cases number with
    | none => rfl
    | some number => simp [boundPieces, unbound]
  simp [pieces, numbers]

/-- The references of the pieces are those of the joins and then of the conditions. -/
theorem names_pieces (query : Query) :
    query.pieces.filterMap Piece.name? =
      (query.allJoins.flatMap fun join => Token.references join.text) ++
        query.conditions.flatMap Token.references := by
  have unnamed (text : String) : (selectionPiece query.aliases text).name? = none := by
    simp only [selectionPiece]
    split <;> rfl
  rw [filterMap_pieces (fun _ _ => rfl), filterMap_textPieces (fun _ => rfl)]
  simp [unnamed, Piece.filterMap_name?_ofExpression]

/-- All columns are taken of the selections that name an alias. -/
theorem aliases_pieces (query : Query) :
    query.pieces.filterMap Piece.alias? =
      query.selections.filter fun text => text ∈ query.aliases := by
  have expression (text : String) : (Piece.ofExpression text).filterMap Piece.alias? = [] := by
    rw [Piece.ofExpression, List.filterMap_map, List.filterMap_eq_nil_iff]
    intro token _
    cases token <;> rfl
  have selection : (fun text => (selectionPiece query.aliases text).alias?) =
      Option.guard fun text => text ∈ query.aliases := by
    funext text
    by_cases known : text ∈ query.aliases
    · simp [selectionPiece, Piece.alias?, Option.guard, known]
    · simp [selectionPiece, Piece.alias?, Option.guard, known]
  rw [filterMap_pieces (fun _ _ => rfl), filterMap_textPieces (fun _ => rfl), selection,
    List.filterMap_eq_filter]
  simp [expression]

/-- Up to the limit every piece is shown. -/
theorem numbers_textPieces (query : Query) :
    ∀ piece ∈ query.textPieces, piece.bound? = none := by
  have expression (text : String) : (Piece.ofExpression text).filterMap Piece.bound? = [] := by
    rw [Piece.ofExpression, List.filterMap_map, List.filterMap_eq_nil_iff]
    intro token _
    cases token <;> rfl
  have selection (text : String) : (selectionPiece query.aliases text).bound? = none := by
    simp only [selectionPiece]
    split <;> rfl
  rw [← List.filterMap_eq_nil_iff, filterMap_textPieces (fun _ => rfl)]
  simp [expression, selection]

/-- The executed and the canonical text of a query are made of the same pieces, and differ in
three of them.  A reference, of which there are those of the joins and then those of the
conditions, is executed as the placeholders of its value and shown by its name.  All columns
of an alias are taken where a selection names one, and the alias is shown.  The limit and the
offset come last and are not shown. -/
theorem statement_shows_canonicalText {query : Query} {statement : Statement}
    (selected : query.selections ≠ []) (rendered : query.statement = .ok statement) :
    query.pieces.flatMap (Piece.executed query.parameters) = statement.symbols ∧
      query.pieces.flatMap Piece.shown = query.canonicalText.toList ∧
      (query.pieces.filterMap Piece.name? =
        (query.allJoins.flatMap fun join => Token.references join.text) ++
          query.conditions.flatMap Token.references) ∧
      (∀ name ∈ query.pieces.filterMap Piece.name?,
        ∃ value, query.parameters.get? name = some value ∧
          (Piece.reference name).executed query.parameters = valueSymbols value) ∧
      (query.pieces.filterMap Piece.alias? =
        query.selections.filter fun text => text ∈ query.aliases) ∧
      query.pieces =
        query.textPieces ++ query.limit.toList.map (.bound " LIMIT ") ++
          query.offset.toList.map (.bound " OFFSET ") ∧
      ∀ piece ∈ query.textPieces, piece.bound? = none := by
  refine ⟨executed_pieces selected rendered, shown_pieces query, names_pieces query, ?_,
    aliases_pieces query, rfl, numbers_textPieces query⟩
  intro name inside
  have referenced : (∃ join ∈ query.allJoins, name ∈ Token.references join.text) ∨
      ∃ text ∈ query.conditions, name ∈ Token.references text := by
    rw [names_pieces, List.mem_append, List.mem_flatMap, List.mem_flatMap] at inside
    exact inside
  rcases Option.isSome_iff_exists.1 (references_bound rendered referenced) with ⟨value, found⟩
  exact ⟨value, found, by simp [Piece.executed, found]⟩

/-- A page of users in some roles with their clubs, and with the cities of these. -/
def cityPage : Query :=
  { Query.ofTable "users" "u" with
    selections := ["u", "c", "count(*)"]
    joins := .ofList [
      ("u", [{ kind := .left, target := "clubs", joinAlias := "c"
               condition := some "c.id = u.club" }]),
      ("c", [{ kind := .inner, target := "cities", joinAlias := "t"
               condition := some "t.name IN (:cities)" }])]
    conditions := ["u.age::text <> ':age'", "u.role IN (:roles)"]
    orderings := [{ expression := "u.age", direction := .descending }]
    parameters := .ofList [("cities", .list [.text "Bonn", .text "Ulm"]), ("roles", .list [])]
    limit := some 10 }

theorem statement_shows_canonicalText_cityPage :
    cityPage.selections ≠ [] ∧ ∃ statement, cityPage.statement = .ok statement ∧
      cityPage.pieces.flatMap (Piece.executed cityPage.parameters) = statement.symbols ∧
      cityPage.pieces.flatMap Piece.shown = cityPage.canonicalText.toList ∧
      statement.sql =
        "SELECT u.*, c.*, count(*) FROM users u LEFT JOIN clubs c ON c.id = u.club " ++
          "INNER JOIN cities t ON t.name IN ($1, $2) " ++
          "WHERE (u.age::text <> ':age') AND (u.role IN (NULL)) ORDER BY u.age DESC LIMIT $3" ∧
      cityPage.canonicalText =
        "SELECT u, c, count(*) FROM users u LEFT JOIN clubs c ON c.id = u.club " ++
          "INNER JOIN cities t ON t.name IN (:cities) " ++
          "WHERE (u.age::text <> ':age') AND (u.role IN (:roles)) ORDER BY u.age DESC" := by
  have selected : cityPage.selections ≠ [] := by decide
  have succeeds : cityPage.statement.isOk = true := by decide +kernel
  cases rendered : cityPage.statement with
  | error error => simp [rendered, Except.isOk, Except.toBool] at succeeds
  | ok statement =>
      rcases statement_shows_canonicalText selected rendered with ⟨executed, shown, -⟩
      refine ⟨selected, statement, rfl, executed, shown, ?_, ?_⟩
      · rw [sql, ← executed]
        decide +kernel
      · rw [← String.toList_inj, ← shown]
        simp only [String.toList_append]
        decide +kernel

end Query

end CriteriaQuery
