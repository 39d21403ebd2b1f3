import CriteriaQuery.Proofs.Lifecycle
import CriteriaQuery.Proofs.References

/-!
# What conditions are bound to

A condition on a column refers to the parameter of that column, and all filters of a
request on one column share the parameter.  The condition of an entry is therefore bound
to the value of the last entry after it that binds the column, and to its own value
exactly if the two bind the same values.
-/

namespace CriteriaQuery

namespace Predicate

variable {rootAlias column : String} {value : Value} {exclude : Bool} {predicate : Predicate}

/-- A predicate with a parameter is a membership or an equality, and both are written
around one reference. -/
theorem resolve_reference (resolved : resolve rootAlias column value exclude = some predicate)
    (bound : predicate.parameter ≠ none) (aliasWord : Text.IsWord rootAlias)
    (columnWord : Text.IsWord column) :
    ∃ opening closing : String,
      predicate.condition = opening ++ ":" ++ parameterName rootAlias column ++ closing ∧
        Text.IsPlain opening ∧ Text.IsPlain closing ∧
        ∀ char more, closing.toList = char :: more → Text.isWordChar char = false := by
  have target : Text.IsPlain (rootAlias ++ "." ++ column) :=
    (aliasWord.isPlain.append (by decide)).append columnWord.isPlain
  have member : Text.IsPlain (if exclude then " NOT IN " else " IN ") := by
    cases exclude <;> decide
  have equal : Text.IsPlain (if exclude then " != " else " = ") := by
    cases exclude <;> decide
  rw [resolve_shape] at resolved
  generalize value.shape = shape at resolved
  cases shape with
  | null => cases resolved
  | items count =>
      cases count with
      | zero => cases resolved
      | succ count =>
          cases resolved
          have opened := (target.append member).append (by decide : Text.IsPlain "(")
          refine ⟨_, ")", ?_, opened, by decide, ?_⟩
          · simp only [membership, String.append_assoc]
            rfl
          · intro char more letters
            cases letters
            decide
  | nullSentinel =>
      cases resolved
      exact absurd rfl bound
  | notNullSentinel =>
      cases resolved
      exact absurd rfl bound
  | scalar =>
      cases resolved
      refine ⟨_, "", ?_, target.append equal, by decide, ?_⟩
      · simp only [equality, String.append_assoc, String.append_empty]
      · intro char more letters
        cases letters

theorem isWord_parameterName (aliasWord : Text.IsWord rootAlias)
    (columnWord : Text.IsWord column) : Text.IsWord (parameterName rootAlias column) :=
  (aliasWord.append (by decide)).append columnWord

theorem parameterName_ne_empty (rootAlias column : String) :
    parameterName rootAlias column ≠ "" := by
  intro empty
  have letters := congrArg String.toList empty
  simp [parameterName] at letters

end Predicate

namespace Repository

open Statement Query

/-- In the statement of a query for a list, the conjunct of an entry is rendered around the
value of the last entry from it on that binds its column, item by item if that is a list.
It is bound to the value of the entry itself exactly if those two bind the same values. -/
theorem conjunct_bound_iff {α : Type} {repository : Repository α} {filters : ColumnFilters}
    (described : repository.handlers.FilterBy filters)
    (keep : repository.handlers.KeepFilters)
    (aliasWord : Text.IsWord repository.entity.rootAlias)
    (columnWords : ∀ name filter, filters name = some filter → Text.IsWord filter.column)
    {criteria : Criteria} {selects : List String} {orders : Orders} {query : Query}
    {statement : Statement}
    (composed : (repository.manyQuery criteria selects orders).result = .ok query)
    (rendered : query.statement = .ok statement)
    {before after : List (String × Value)} {key : String} {value : Value}
    (augmented : (repository.augment criteria).entries = before ++ (key, value) :: after)
    (named : key ≠ "") {filter : ColumnFilter} (found : filters.filter? key = some filter)
    {predicate : Predicate}
    (resolved : filter.predicate? repository.entity.rootAlias value = some predicate)
    (bound : predicate.parameter ≠ none) :
    ∃ opening closing : String,
      let place := (filters.predicates repository.entity.rootAlias before).length
      let last := lastValue (filters.binds filter.column) value after
      let name := Predicate.parameterName repository.entity.rootAlias filter.column
      statement.symbols =
          query.headSymbols ++ joinsClause query.joinImages ++
            conditionsClause query.conditionImages ++ query.tailSymbols ∧
        query.conditions[place]? = some predicate.condition ∧
        predicate.condition = opening ++ ":" ++ name ++ closing ∧
        query.conditionImages[place]? =
          some (chars opening ++ valueSymbols last ++ chars closing) ∧
        (query.conditionImages[place]? =
            some (chars opening ++ valueSymbols value ++ chars closing) ↔
          last.bindings = value.bindings) := by
  rcases manyQuery_filtered keep composed with ⟨filtered, added, kept⟩
  have filteredEq := Handlers.addCriteria_eq_ok described added
  rw [augmented] at filteredEq
  rcases conjunct_of_entry filteredEq named found resolved bound with ⟨conjunct, parameter⟩
  obtain ⟨opening, closing, written, plainOpening, plainClosing, stops⟩ :=
    Predicate.resolve_reference resolved bound aliasWord (columnWords _ filter found)
  refine ⟨opening, closing, ?_⟩
  intro place last name
  -- a new query has no conditions, so the predicates before the entry count its place
  have inQuery : query.conditions[place]? = some predicate.condition := by
    have first : repository.freshQuery.conditions.length + place = place := Nat.zero_add place
    rw [← first]
    exact kept.condition_at conjunct
  have value := kept.parameters name last parameter
  have word : Text.IsWord name :=
    Predicate.isWord_parameterName aliasWord (columnWords _ filter found)
  have nonempty : name ≠ "" := Predicate.parameterName_ne_empty _ _
  have image : query.conditionImages[place]? =
      some (chars opening ++ valueSymbols last ++ chars closing) := by
    rw [conditionImages, List.getElem?_map, inQuery, Option.map_some, written,
      expressionImage_reference query.parameters plainOpening nonempty word plainClosing stops,
      value]
    rfl
  refine ⟨symbols_of_statement rendered, inQuery, written, image, ?_⟩
  rw [image, ← valueSymbols_inj, Option.some_inj, List.append_assoc, List.append_assoc]
  constructor
  · intro same
    exact List.append_cancel_right (List.append_cancel_left same)
  · intro same
    rw [same]

/-- A status given as a text and, under the same name in another spelling, as a list. -/
def spelledTwice : Criteria :=
  .ofList [("status", .text "active"), ("Status", .list [.text "active"])]

theorem conjunct_bound_iff_spelledTwice :
    ∃ query statement,
      ((userRepository .empty).manyQuery spelledTwice [] .empty).result = .ok query ∧
      query.statement = .ok statement ∧
      ∃ opening closing : String,
        query.conditions[0]? = some (opening ++ ":" ++ "u_status" ++ closing) ∧
          query.conditionImages[0]? =
            some (chars opening ++ valueSymbols (.text "active") ++ chars closing) := by
  let filters : ColumnFilters := ColumnFilters.withLifecycle (fun _ => none) {}
  let filter : ColumnFilter := { column := "status", exclude := false }
  let query := usersWhere ["u.status = :u_status", "u.status IN (:u_status)"]
    [("u_status", .list [.text "active"])]
  have composed :
      ((userRepository .empty).manyQuery spelledTwice [] .empty).result = .ok query := rfl
  have ordered : Handlers.empty.OrderBy fun _ => none := fun _ => rfl
  have selected : Handlers.empty.SelectsAppend [] := fun _ _ stored => nomatch stored
  have aliasWord : Text.IsWord (userRepository .empty).entity.rootAlias := by decide
  have columnWords : ∀ name filter, filters name = some filter → Text.IsWord filter.column := by
    intro name filter found
    rcases ColumnFilters.withLifecycle_cases found with absent | ⟨-, rfl⟩ | ⟨-, rfl⟩
    · cases absent
    · decide
    · decide
  have augmented : ((userRepository .empty).augment spelledTwice).entries =
      [] ++ ("status", .text "active") :: [("Status", .list [.text "active"])] := rfl
  have found : filters.filter? "status" = some filter := rfl
  have resolved : filter.predicate? (userRepository .empty).entity.rootAlias (.text "active") =
      some (.equality "u" "status" (.text "active") false) := rfl
  have bound : (Predicate.equality "u" "status" (.text "active") false).parameter ≠ none := by
    simp [Predicate.equality]
  have succeeds : query.statement.isOk = true := by decide +kernel
  cases rendered : query.statement with
  | error error => simp [rendered, Except.isOk, Except.toBool] at succeeds
  | ok statement =>
      obtain ⟨opening, closing, -, placed, written, -, own⟩ :=
        conjunct_bound_iff (userRepository_filterBy .empty)
          (userRepository_keepFilters ordered selected) aliasWord columnWords composed rendered
          augmented (by decide) found resolved bound
      refine ⟨query, statement, composed, rendered, opening, closing, ?_, own.2 rfl⟩
      exact placed.trans (congrArg some written)

/-- A status to be included and a status to be excluded. -/
def includedAndExcluded : Criteria :=
  .ofList [("status", .list [.text "active"]), ("excludedStatus", .list [.text "banned"])]

/-- The condition on the included status is bound to the excluded one. -/
theorem conjunct_bound_to_other :
    ((userRepository .empty).augment includedAndExcluded).entries =
        [("status", .list [.text "active"]), ("excludedStatus", .list [.text "banned"])] ∧
      ∃ query statement,
        ((userRepository .empty).manyQuery includedAndExcluded [] .empty).result = .ok query ∧
          query.statement = .ok statement ∧
          query.conditions = ["u.status IN (:u_status)", "u.status NOT IN (:u_status)"] ∧
          statement.sql =
            "SELECT u.* FROM users u WHERE (u.status IN ($1)) AND (u.status NOT IN ($2))" ∧
          statement.parameters = [.text "banned", .text "banned"] ∧
          statement.parameters ≠ [.text "active", .text "banned"] := by
  let query := usersWhere ["u.status IN (:u_status)", "u.status NOT IN (:u_status)"]
    [("u_status", .list [.text "banned"])]
  have composed :
      ((userRepository .empty).manyQuery includedAndExcluded [] .empty).result = .ok query := rfl
  have text : query.statement.map Statement.sql =
      .ok "SELECT u.* FROM users u WHERE (u.status IN ($1)) AND (u.status NOT IN ($2))" := by
    decide +kernel
  obtain ⟨statement, rendered, sql⟩ := Except.map_eq_ok text
  have parameters : statement.parameters = [.text "banned", .text "banned"] :=
    parameters_of_statement rendered
  refine ⟨rfl, query, statement, composed, rendered, rfl, sql, parameters, ?_⟩
  rw [parameters]
  simp

end Repository

end CriteriaQuery
