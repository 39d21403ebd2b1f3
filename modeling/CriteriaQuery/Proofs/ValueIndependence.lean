import CriteriaQuery.Proofs.Agreement
import CriteriaQuery.Proofs.Symbols

/-!
# Text that does not depend on values

The SQL text of a request is a function of its fields and of the shapes of its values.
Two requests that differ in nothing else are refused with one error, or have statements
with the same text and the same number of placeholders; so no value, however it is
written, can change what the text says.

The proof follows the two requests from their filters, which are augmented alike, through
composing, which keeps queries alike, to rendering, where a value leaves no more than the
number of its placeholders.
-/

namespace CriteriaQuery

namespace Settings

/-- The exclusion of deleted rows looks at keys and counts excluded statuses. -/
theorem shapes_excludeDeleted (settings : Settings) (hasStatus : Bool) {first second : Criteria}
    (shapes : first.mapValues Value.shape = second.mapValues Value.shape) :
    (settings.excludeDeleted hasStatus first).mapValues Value.shape =
      (settings.excludeDeleted hasStatus second).mapValues Value.shape := by
  have look (key : String) :
      (first.get? key).map Value.shape = (second.get? key).map Value.shape := by
    rw [← OrderedMap.get?_mapValues, ← OrderedMap.get?_mapValues, shapes]
  have mentioned : first.contains settings.statusField = second.contains settings.statusField := by
    have found := congrArg Option.isSome (look settings.statusField)
    rwa [Option.isSome_map, Option.isSome_map] at found
  have excluded (criteria : Criteria) : (settings.excludedStatuses criteria).shape =
      .items ((((criteria.get? settings.excludedStatusKey).map Value.shape).getD
        .null).itemCount + 1) := by
    have length (value : Value) : (value.toItems ++ [settings.deletedStatus]).length =
        value.shape.itemCount + 1 := by
      rw [List.length_append, Value.length_toItems, List.length_singleton]
    have shape : (settings.excludedStatuses criteria).shape =
      .items (((criteria.get? settings.excludedStatusKey).getD .null).toItems ++
        [settings.deletedStatus]).length := rfl
    rw [shape, length]
    cases criteria.get? settings.excludedStatusKey <;> rfl
  rw [excludeDeleted, excludeDeleted, mentioned]
  split
  · exact shapes
  · rw [OrderedMap.mapValues_insert, OrderedMap.mapValues_insert, shapes, excluded, excluded,
      look]

end Settings

/-- The number of placeholders that a parameter of a shape is rendered with. -/
def Value.Shape.placeholderCount : Shape → Nat
  | .items count => count
  | _ => 1

theorem Value.length_bindings (value : Value) :
    value.bindings.length = value.shape.placeholderCount := by
  cases value with
  | list items => rfl
  | text content =>
      simp only [shape]
      split
      · rfl
      · split <;> rfl
  | null | bool | int | float | uuid | timestamp | json => rfl

namespace Statement

/-- A symbol without its value. -/
def Symbol.erase : Symbol → Symbol
  | .char letter => .char letter
  | .bound _ => .bound .null

/-- Symbols without their values. -/
def erase (symbols : List Symbol) : List Symbol :=
  symbols.map Symbol.erase

@[simp] theorem erase_append (first second : List Symbol) :
    erase (first ++ second) = erase first ++ erase second :=
  List.map_append

@[simp] theorem erase_chars (text : String) : erase (chars text) = chars text := by
  simp [erase, chars, Symbol.erase]

theorem erase_intercalate (text : String) (images : List (List Symbol)) :
    erase ((chars text).intercalate images) = (chars text).intercalate (images.map erase) := by
  induction images with
  | nil => rfl
  | cons first rest ih =>
      cases rest with
      | nil => simp
      | cons second more =>
          rw [List.intercalate_cons_cons, List.map_cons, List.map_cons,
            List.intercalate_cons_cons, ← List.map_cons, ← ih]
          simp

/-- The text of a statement does not show what its values are. -/
theorem renderFrom_erase (count : Nat) (symbols : List Symbol) :
    renderFrom count (erase symbols) = renderFrom count symbols := by
  induction symbols generalizing count with
  | nil => rfl
  | cons symbol rest ih =>
      cases symbol with
      | char char =>
          change char :: renderFrom count (erase rest) = char :: renderFrom count rest
          rw [ih]
      | bound value =>
          change '$' :: Nat.toDigits 10 (count + 1) ++ renderFrom (count + 1) (erase rest) =
            '$' :: Nat.toDigits 10 (count + 1) ++ renderFrom (count + 1) rest
          rw [ih]

theorem length_boundValues_erase (symbols : List Symbol) :
    (boundValues (erase symbols)).length = (boundValues symbols).length := by
  induction symbols with
  | nil => rfl
  | cons symbol rest ih =>
      cases symbol with
      | char char => exact ih
      | bound value => exact congrArg Nat.succ ih

/-- Of a list no more is left than its length. -/
theorem erase_listSymbols (items : List Value) :
    erase (listSymbols items) = listSymbols (List.replicate items.length .null) := by
  fun_induction listSymbols items with
  | case1 => exact erase_chars "NULL"
  | case2 value => rfl
  | case3 value next rest ih =>
      change .bound .null :: erase (chars ", " ++ listSymbols (next :: rest)) =
        .bound .null :: (chars ", " ++ listSymbols (List.replicate (rest.length + 1) .null))
      rw [erase_append, erase_chars, ih]
      rfl

theorem erase_valueSymbols {left right : Value} (same : left.shape = right.shape) :
    erase (valueSymbols left) = erase (valueSymbols right) := by
  have lengths : left.bindings.length = right.bindings.length := by
    rw [Value.length_bindings, Value.length_bindings, same]
  rw [valueSymbols_eq, valueSymbols_eq, erase_listSymbols, erase_listSymbols, lengths]

variable {left right : OrderedMap String Value}

theorem tokenSymbols_agree (shapes : left.mapValues Value.shape = right.mapValues Value.shape)
    (token : Token) :
    Agree (fun first second => erase first = erase second) (tokenSymbols left token)
      (tokenSymbols right token) := by
  cases token with
  | reference name =>
      have look : (left.get? (String.ofList name)).map Value.shape =
          (right.get? (String.ofList name)).map Value.shape := by
        rw [← OrderedMap.get?_mapValues, ← OrderedMap.get?_mapValues, shapes]
      simp only [tokenSymbols]
      cases first : left.get? (String.ofList name) with
      | none =>
          cases second : right.get? (String.ofList name) with
          | none => exact .error _
          | some value => simp [first, second] at look
      | some value =>
          cases second : right.get? (String.ofList name) with
          | none => simp [first, second] at look
          | some value' =>
              rw [first, second, Option.map_some, Option.map_some, Option.some_inj] at look
              exact .ok (erase_valueSymbols look)
  | quoted | cast | plain => exact .ok rfl

/-- An expression leaves the same placeholders for parameters of the same shapes. -/
theorem expressionSymbols_agree
    (shapes : left.mapValues Value.shape = right.mapValues Value.shape) (text : String) :
    Agree (fun first second => erase first = erase second) (expressionSymbols left text)
      (expressionSymbols right text) := by
  have tokens : Agree (fun firsts seconds => firsts.map erase = seconds.map erase)
      ((Token.scan text.toList).mapM (tokenSymbols left))
      ((Token.scan text.toList).mapM (tokenSymbols right)) :=
    Agree.mapM erase fun token _ => tokenSymbols_agree shapes token
  apply tokens.bind
  intro first second same
  apply Agree.ok
  rw [erase, erase, List.map_flatten, List.map_flatten]
  exact congrArg List.flatten same

end Statement

namespace Query

open Statement

theorem erase_joinsClause (images : List (List Symbol)) :
    erase (joinsClause images) = joinsClause (images.map erase) := by
  induction images with
  | nil => rfl
  | cons image rest ih =>
      change erase ((chars " " ++ image) ++ joinsClause rest) =
        (chars " " ++ erase image) ++ joinsClause (rest.map erase)
      rw [erase_append, erase_append, erase_chars, ih]

theorem erase_conditionsClause (images : List (List Symbol)) :
    erase (conditionsClause images) = conditionsClause (images.map erase) := by
  match images with
  | [] => rfl
  | [single] => simp [conditionsClause]
  | first :: second :: rest =>
      simp only [conditionsClause, List.map_cons, erase_append, erase_chars]
      rw [erase_intercalate, List.map_cons, List.map_cons]

theorem erase_boundClause (keyword : String) {left right : Option Int64}
    (same : left.isSome = right.isSome) :
    erase (boundClause keyword left) = erase (boundClause keyword right) := by
  cases left with
  | none =>
      cases right with
      | none => rfl
      | some number => cases same
  | some number =>
      cases right with
      | none => cases same
      | some number' => simp [boundClause, erase, Symbol.erase]

/-- Alike queries have statements that differ in nothing but values. -/
theorem statement_agree {left right : Query} (alike : left.Alike right) :
    Agree (fun first second => erase first.symbols = erase second.symbols) left.statement
      right.statement := by
  cases alike with
  | @intro parameters limit offset shapes limits offsets =>
      have joins : Agree (fun firsts seconds => firsts.map erase = seconds.map erase)
          (left.allJoins.mapM fun join => expressionSymbols left.parameters join.text)
          (left.allJoins.mapM fun join => expressionSymbols parameters join.text) :=
        Agree.mapM erase fun join _ => expressionSymbols_agree shapes join.text
      have conditions : Agree (fun firsts seconds => firsts.map erase = seconds.map erase)
          (left.conditions.mapM (expressionSymbols left.parameters))
          (left.conditions.mapM (expressionSymbols parameters)) :=
        Agree.mapM erase fun text _ => expressionSymbols_agree shapes text
      -- the parts in front of the joins are read from both queries in the same way
      apply (Agree.refl (left.selections.mapM (selectionSymbols left.aliases))).bind
      rintro selections _ rfl
      apply (Agree.refl (identifierSymbols left.table)).bind
      rintro table _ rfl
      apply (Agree.refl (identifierSymbols left.rootAlias)).bind
      rintro rootAlias _ rfl
      apply joins.bind
      intro leftJoins rightJoins sameJoins
      apply conditions.bind
      intro leftConditions rightConditions sameConditions
      apply Agree.ok
      simp only [erase_append, erase_joinsClause, erase_conditionsClause, sameJoins,
        sameConditions]
      rw [erase_boundClause _ limits, erase_boundClause _ offsets]

end Query

namespace Repository

variable {α : Type} {repository : Repository α} {filters : ColumnFilters}
  {columns : ColumnOrders}

theorem oneQuery_agree (described : repository.handlers.FilterBy filters)
    (fixed : repository.handlers.SelectsFixed) {first second : Criteria}
    (shapes : first.mapValues Value.shape = second.mapValues Value.shape)
    (selects : List String) :
    Agree Query.Alike (repository.oneQuery first selects).result
      (repository.oneQuery second selects).result := by
  have augmented := repository.settings.shapes_excludeDeleted repository.hasStatus shapes
  simp only [oneQuery, Pass.result_andThen]
  apply (Handlers.addCriteria_agree described (.refl _) augmented).bind
  intro _ _ filtered
  apply (Handlers.addSelects_agree fixed filtered selects).bind
  intro _ _ selected
  exact selected.dropDuplicates

theorem manyQuery_agree (described : repository.handlers.FilterBy filters)
    (ordered : repository.handlers.OrderBy columns)
    (fixed : repository.handlers.SelectsFixed) {first second : Criteria}
    (shapes : first.mapValues Value.shape = second.mapValues Value.shape)
    (selects : List String) (orders : Orders) :
    Agree Query.Alike (repository.manyQuery first selects orders).result
      (repository.manyQuery second selects orders).result := by
  have augmented := repository.settings.shapes_excludeDeleted repository.hasStatus shapes
  simp only [manyQuery, Pass.result_andThen]
  apply (Handlers.addCriteria_agree described (.refl _) augmented).bind
  intro _ _ filtered
  apply (Handlers.addOrders_agree ordered filtered orders).bind
  intro _ _ sorted
  apply (Handlers.addSelects_agree fixed sorted selects).bind
  intro _ _ selected
  exact selected.dropDuplicates

theorem buildQuery_agree (described : repository.handlers.FilterBy filters)
    (ordered : repository.handlers.OrderBy columns)
    (fixed : repository.handlers.SelectsFixed) {left right : QueryOptions}
    (select : left.select = right.select)
    (shapes : left.criteria.mapValues Value.shape = right.criteria.mapValues Value.shape)
    (orderBy : left.orderBy = right.orderBy) (limit : left.limit.isSome = right.limit.isSome)
    (offset : left.offset.isSome = right.offset.isSome) :
    Agree Query.Alike (repository.buildQuery left).result
      (repository.buildQuery right).result := by
  have augmented := repository.settings.shapes_excludeDeleted repository.hasStatus shapes
  simp only [buildQuery, Pass.result_andThen, Pass.result_update, select, orderBy]
  apply (Handlers.addSelects_agree fixed (.refl _) _).bind
  intro _ _ selected
  apply (Handlers.addCriteria_agree described selected augmented).bind
  intro _ _ filtered
  apply (Handlers.addOrders_agree ordered filtered _).bind
  intro _ _ sorted
  exact (sorted.paginate limit offset).dropDuplicates

end Repository

/-- The text of the statement of a composed query, with the number of its values. -/
def Outcome.text (outcome : Outcome) : Except QueryError (String × Nat) :=
  (outcome.result.bind Query.statement).map fun statement =>
    (statement.sql, statement.parameters.length)

/-- Outcomes with alike queries have one text. -/
theorem Outcome.text_eq {left right : Outcome}
    (agree : Agree Query.Alike left.result right.result) : left.text = right.text := by
  have statements := agree.bind fun _ _ alike => Query.statement_agree alike
  apply statements.map_eq
  intro first second same
  have sql : first.sql = second.sql := by
    rw [Statement.sql, Statement.sql, ← Statement.renderFrom_erase, same,
      Statement.renderFrom_erase]
  have count : first.parameters.length = second.parameters.length := by
    change (Statement.boundValues first.symbols).length =
      (Statement.boundValues second.symbols).length
    rw [← Statement.length_boundValues_erase, same, Statement.length_boundValues_erase]
  rw [sql, count]

/-- Options that differ only within the shapes of their values, and in the numbers of limit
and offset, lead to one text or to one error, in whichever way they are composed. -/
theorem Repository.text_eq_of_shapes {α : Type} {repository : Repository α}
    {filters : ColumnFilters} {columns : ColumnOrders}
    (described : repository.handlers.FilterBy filters)
    (ordered : repository.handlers.OrderBy columns)
    (fixed : repository.handlers.SelectsFixed) {left right : QueryOptions}
    (select : left.select = right.select)
    (shapes : left.criteria.mapValues Value.shape = right.criteria.mapValues Value.shape)
    (orderBy : left.orderBy = right.orderBy) (limit : left.limit.isSome = right.limit.isSome)
    (offset : left.offset.isSome = right.offset.isSome) :
    (repository.buildQuery left).text = (repository.buildQuery right).text ∧
      (repository.oneQuery left.criteria left.select).text =
        (repository.oneQuery right.criteria right.select).text ∧
      (repository.manyQuery left.criteria left.select left.orderBy).text =
        (repository.manyQuery right.criteria right.select right.orderBy).text := by
  have built := buildQuery_agree described ordered fixed select shapes orderBy limit offset
  have one := oneQuery_agree described fixed shapes right.select
  have many := manyQuery_agree described ordered fixed shapes right.select right.orderBy
  rw [select, orderBy]
  exact ⟨Outcome.text_eq built, Outcome.text_eq one, Outcome.text_eq many⟩

/-- Handlers that filter and order by age and can join the teams. -/
def teamHandlers : Handlers :=
  ((Handlers.empty.fieldCriterion "age").fieldOrder "age").select "team"
    (.update fun query => query.addJoin
      { kind := .left, target := "teams", joinAlias := "t", condition := some "t.id = u.team" })

/-- A page of users of an age that are not in a status. -/
def agePage (age status : Value) (limit : Int64) : QueryOptions where
  select := ["team"]
  criteria := .ofList [("age", age), ("excludedStatus", .list [status])]
  orderBy := .ofList [("age", "ASC")]
  limit := some limit

/-- A page with values as they are meant to be. -/
def plainPage : QueryOptions :=
  agePage (.int 30) (.text "archived") 10

/-- A page with values that are meant to break out of a text. -/
def hostilePage : QueryOptions :=
  agePage (.text "1) OR :u_status = $1 --") (.text "') OR ('' = '") 7

/-- The text of such pages. -/
def agePageText : String :=
  "SELECT u.* FROM users u LEFT JOIN teams t ON t.id = u.team " ++
    "WHERE (u.age = $1) AND (u.status NOT IN ($2, $3)) ORDER BY u.age ASC LIMIT $4"

theorem text_eq_of_shapes_agePage :
    ((userRepository teamHandlers).buildQuery plainPage).text = .ok (agePageText, 4) ∧
      ((userRepository teamHandlers).buildQuery hostilePage).text = .ok (agePageText, 4) := by
  let query : Query :=
    { Query.ofTable "users" "u" with
      joins := .ofList [("u", [{ kind := .left, target := "teams", joinAlias := "t"
                                 condition := some "t.id = u.team" }])]
      conditions := ["u.age = :u_age", "u.status NOT IN (:u_status)"]
      orderings := [{ expression := "u.age", direction := .ascending }]
      parameters := .ofList
        [("u_age", .int 30), ("u_status", .list [.text "archived", .text "deleted"])]
      limit := some 10 }
  have composed : ((userRepository teamHandlers).buildQuery plainPage).result = .ok query := by rfl
  have rendered : query.statement.map (fun statement =>
      (statement.sql, statement.parameters.length)) = .ok (agePageText, 4) := by decide +kernel
  have text : ((userRepository teamHandlers).buildQuery plainPage).text = .ok (agePageText, 4) := by
    rw [Outcome.text, composed]
    exact rendered
  have described : teamHandlers.FilterBy _ :=
    Handlers.FilterBy.empty.extend "age" { column := "age", exclude := false }
  have unordered (name : String) :
      Handlers.empty.orders.get? name = Option.map OrderHandler.ofColumn none := rfl
  have ordered : teamHandlers.OrderBy _ :=
    OrderedMap.get?_insert_free unordered (Handlers.orderName "age") "age"
  have fixed : teamHandlers.SelectsFixed := by
    intro name handler stored
    by_cases same : name = Handlers.selectName "team"
    · subst same
      rw [teamHandlers, Handlers.select, OrderedMap.get?_insert_self] at stored
      cases stored
      exact ⟨fun rootAlias => [.join rootAlias _], none, fun query => ⟨rfl, rfl⟩⟩
    · rw [teamHandlers, Handlers.select, OrderedMap.get?_insert_of_ne _ same] at stored
      cases stored
  have select : plainPage.select = hostilePage.select := rfl
  have shapes : plainPage.criteria.mapValues Value.shape =
      hostilePage.criteria.mapValues Value.shape := by rfl
  have same := (Repository.text_eq_of_shapes (userRepository_filterBy described)
    (ordered.withLifecycle {}) (fixed.withLifecycle {}) select shapes rfl rfl rfl).1
  exact ⟨text, same.symm.trans text⟩

end CriteriaQuery
