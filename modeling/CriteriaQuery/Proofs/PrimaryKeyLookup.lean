import CriteriaQuery.Proofs.Compilation

/-!
# Look-up by primary key

The look-up by primary key takes an identifier exactly if a filter on the key would compare
it as equal.  It refuses the other shapes of values itself, so that it never has the query
that such a filter leads to: one with a membership test, with a test for nullness, or without
any condition.

An identifier that is taken is the only value that the statement of the look-up binds, and its
text is the same for all of them.
-/

namespace CriteriaQuery

namespace Value

/-- The values that are no scalar: null, the lists and the two sentinel texts. -/
theorem shape_ne_scalar_iff {value : Value} :
    value.shape ≠ .scalar ↔
      value = .null ∨ (∃ items, value = .list items) ∨
        value = .text nullSentinel ∨ value = .text notNullSentinel := by
  cases value with
  | text content =>
      simp only [shape]
      split
      · next absent => simp [absent]
      · next notAbsent =>
          split
          · next present => simp [present]
          · next notPresent => simp [notAbsent, notPresent]
  | null | bool | int | float | uuid | timestamp | json | list => simp [shape]

/-- A scalar is no list. -/
theorem items?_eq_none_of_scalar {value : Value} (scalar : value.shape = .scalar) :
    value.items? = none := by
  cases value with
  | list items => cases scalar
  | null | bool | int | float | text | uuid | timestamp | json => rfl

/-- A reference to a scalar binds the scalar. -/
theorem bindings_of_scalar {value : Value} (scalar : value.shape = .scalar) :
    value.bindings = [value] := by
  cases value with
  | list items => cases scalar
  | null | bool | int | float | text | uuid | timestamp | json => rfl

end Value

namespace Predicate

variable {rootAlias column : String} {value : Value}

/-- A filter compares exactly the scalars as equal. -/
theorem resolve_eq_equality_iff :
    resolve rootAlias column value false = some (equality rootAlias column value false) ↔
      value.shape = .scalar := by
  constructor
  · intro equated
    rw [resolve_shape] at equated
    generalize value.shape = shape at equated
    cases shape with
    | null => cases equated
    | items count =>
        -- membership and equality differ in the character behind the column
        cases count with
        | zero => cases equated
        | succ count =>
            have letters := congrArg (fun predicate => predicate.condition.toList)
              (Option.some.inj equated)
            simp [membership, equality] at letters
    | nullSentinel =>
        have parameters := congrArg Predicate.parameter (Option.some.inj equated)
        cases parameters
    | notNullSentinel =>
        have parameters := congrArg Predicate.parameter (Option.some.inj equated)
        cases parameters
    | scalar => rfl
  · intro scalar
    rw [resolve_shape, scalar]

/-- A filter has a parameter that is no list exactly if its value is a scalar. -/
theorem resolve_binds_iff :
    (∃ predicate name bound, resolve rootAlias column value false = some predicate ∧
      predicate.parameter = some (name, bound) ∧ bound.items? = none) ↔
        value.shape = .scalar := by
  constructor
  · intro binds
    obtain ⟨predicate, name, bound, resolved, parameter, noList⟩ := binds
    have given := resolve_parameter rootAlias column value false
    rw [resolved, Option.bind_some, parameter] at given
    split at given
    · next isBound =>
        obtain ⟨-, rfl⟩ := Prod.mk.inj (Option.some.inj given)
        by_contra notScalar
        obtain rfl | ⟨items, rfl⟩ | rfl | rfl := Value.shape_ne_scalar_iff.1 notScalar
        · cases isBound
        · cases noList
        · cases isBound
        · cases isBound
    · cases given
  · intro scalar
    exact ⟨_, _, value, resolve_eq_equality_iff.2 scalar, rfl,
      Value.items?_eq_none_of_scalar scalar⟩

end Predicate

namespace Statement

/-- A text with one value behind it. -/
theorem sql_of_last_bound {statement : Statement} {text : String} {value : Value}
    (symbols : statement.symbols = chars text ++ [.bound value]) :
    statement.sql = text ++ "$1" ∧ statement.parameters = [value] := by
  have outright : statement.parameters = boundValues statement.symbols := rfl
  have nothing : (chars text).filterMap Symbol.value? = [] := boundValues_chars text
  constructor
  · apply String.toList_inj.1
    rw [sql, String.toList_ofList, symbols, renderFrom_append, nothing, chars,
      renderFrom_map_char, String.toList_append]
    rfl
  · rw [outright, symbols, boundValues_append, boundValues_chars]
    rfl

end Statement

namespace Repository

open Statement

variable {α : Type} {repository : Repository α} {primaryKey : String}

/-- The look-up by primary key, case by case on the shape of the identifier. -/
theorem idQuery_shape (keyed : repository.entity.primaryKey = some primaryKey) (id : Value) :
    repository.idQuery id =
      match id.shape with
      | .null => .error (.validation (.lookupNotScalar repository.entity.table primaryKey))
      | .items _ => .error (.validation (.lookupNotScalar repository.entity.table primaryKey))
      | .nullSentinel => .error
          (.validation (.lookupSentinel repository.entity.table primaryKey Value.nullSentinel))
      | .notNullSentinel => .error
          (.validation (.lookupSentinel repository.entity.table primaryKey
            Value.notNullSentinel))
      | .scalar => .ok (repository.lookup primaryKey id) := by
  simp only [idQuery, keyed]
  cases id with
  | text content =>
      simp only [Value.shape]
      split
      · next sentinel =>
          obtain rfl | rfl := sentinel
          · rfl
          · rfl
      · next other =>
          obtain ⟨notAbsent, notPresent⟩ := not_or.1 other
          rw [if_neg notAbsent, if_neg notPresent]
  | null | bool | int | float | uuid | timestamp | json | list => rfl

/-- A look-up succeeds exactly for the scalars. -/
theorem idQuery_eq_ok_iff (keyed : repository.entity.primaryKey = some primaryKey) {id : Value}
    {query : Query} :
    repository.idQuery id = .ok query ↔
      id.shape = .scalar ∧ query = repository.lookup primaryKey id := by
  rw [idQuery_shape keyed]
  cases id.shape with
  | scalar => simp [eq_comm]
  | null | items | nullSentinel | notNullSentinel => simp

/-- A look-up is refused as invalid exactly for all else. -/
theorem idQuery_refused_iff (keyed : repository.entity.primaryKey = some primaryKey)
    {id : Value} :
    (∃ cause, repository.idQuery id = .error (.validation cause)) ↔ id.shape ≠ .scalar := by
  rw [idQuery_shape keyed]
  cases id.shape with
  | scalar => simp
  | null | items | nullSentinel | notNullSentinel => simp

/-- The look-up is a new query with one condition and one parameter. -/
theorem lookup_eq (repository : Repository α) (primaryKey : String) (id : Value) :
    repository.lookup primaryKey id =
      { repository.freshQuery with
        conditions :=
          [(Predicate.equality repository.entity.rootAlias primaryKey id false).condition]
        parameters := .ofList
          [(Predicate.parameterName repository.entity.rootAlias primaryKey, id)] } := by
  have condition : repository.entity.rootAlias ++ "." ++ primaryKey ++ " = :" ++
        Predicate.parameterName repository.entity.rootAlias primaryKey =
      (Predicate.equality repository.entity.rootAlias primaryKey id false).condition := by
    simp [Predicate.equality, String.append_assoc]
  rw [lookup, condition]
  rfl

/-- The look-up of a scalar is a new query with a filter on the primary key. -/
theorem lookup_eq_addCriterion {id : Value} (scalar : id.shape = .scalar) :
    repository.lookup primaryKey id =
      repository.freshQuery.addCriterion repository.entity.rootAlias primaryKey id false := by
  rw [lookup_eq, Query.addCriterion, Predicate.resolve_eq_equality_iff.2 scalar]
  rfl

/-- A look-up selects all columns of its table. -/
theorem headSymbols_lookup (repository : Repository α) (primaryKey : String) (id : Value) :
    (repository.lookup primaryKey id).headSymbols =
      chars "SELECT " ++ chars (repository.entity.rootAlias ++ ".*") ++ chars " FROM " ++
        chars repository.entity.table ++ chars " " ++ chars repository.entity.rootAlias := by
  have selections : (repository.lookup primaryKey id).selections =
      [repository.entity.rootAlias] := rfl
  have selected : Query.selectionText (repository.lookup primaryKey id).aliases
      repository.entity.rootAlias = repository.entity.rootAlias ++ ".*" :=
    if_pos List.mem_cons_self
  rw [Query.headSymbols, selections, List.map_singleton, selected, Query.selectionsClause,
    List.intercalate_singleton]
  · rfl
  · simp

section Words

variable (aliasWord : Text.IsWord repository.entity.rootAlias) (keyWord : Text.IsWord primaryKey)
  {id : Value} (scalar : id.shape = .scalar)

include aliasWord keyWord scalar

/-- The look-up of a scalar can be rendered if its table and its root alias are identifiers. -/
theorem exists_statement_lookup (table : Text.isIdentifier repository.entity.table = true)
    (rootAlias : Text.isIdentifier repository.entity.rootAlias = true) :
    ∃ statement, (repository.lookup primaryKey id).statement = .ok statement := by
  have references := Predicate.references_condition
    (Predicate.resolve_eq_equality_iff.2 scalar) aliasWord keyWord
  rw [lookup_eq]
  apply Query.exists_statement_of_isPlain
  · exact table
  · exact rootAlias
  · intro join inside
    cases inside
  · intro text inside name referenced
    rw [List.mem_singleton.1 inside, references] at referenced
    rw [List.mem_singleton.1 referenced]
    simp [OrderedMap.ofList, OrderedMap.insertAll]

/-- The condition of a look-up is rendered around the identifier. -/
theorem conditionImages_lookup :
    (repository.lookup primaryKey id).conditionImages =
      [chars (repository.entity.rootAlias ++ "." ++ primaryKey ++ " = ") ++ [.bound id]] := by
  let name := Predicate.parameterName repository.entity.rootAlias primaryKey
  let opening := repository.entity.rootAlias ++ "." ++ primaryKey ++ " = "
  have plain : Text.IsPlain opening :=
    ((aliasWord.isPlain.append (by decide)).append keyWord.isPlain).append (by decide)
  have nonempty : name ≠ "" := Predicate.parameterName_ne_empty _ _
  have word : Text.IsWord name := Predicate.isWord_parameterName aliasWord keyWord
  have stops : ∀ char more, ("" : String).toList = char :: more →
      Text.isWordChar char = false := by
    intro char more letters
    cases letters
  have written :
      (Predicate.equality repository.entity.rootAlias primaryKey id false).condition =
        opening ++ ":" ++ name ++ "" := by
    simp [Predicate.equality, opening, name]
  rw [lookup_eq, Query.conditionImages, List.map_singleton, written,
    expressionImage_reference _ plain nonempty word (by decide) stops]
  simp [OrderedMap.ofList, OrderedMap.insertAll, valueSymbols_eq,
    Value.bindings_of_scalar scalar, listSymbols, chars, name, opening]

/-- The statement of a look-up compares the primary key with the identifier and binds nothing
else. -/
theorem symbols_lookup {statement : Statement}
    (rendered : (repository.lookup primaryKey id).statement = .ok statement) :
    statement.symbols =
      chars ("SELECT " ++ repository.entity.rootAlias ++ ".* FROM " ++ repository.entity.table ++
        " " ++ repository.entity.rootAlias ++ " WHERE " ++ repository.entity.rootAlias ++ "." ++
        primaryKey ++ " = ") ++ [.bound id] := by
  have joins : (repository.lookup primaryKey id).joinImages = [] := rfl
  have tail : (repository.lookup primaryKey id).tailSymbols = [] := rfl
  rw [Query.symbols_of_statement rendered, headSymbols_lookup, joins,
    conditionImages_lookup aliasWord keyWord scalar, tail]
  simp [Query.joinsClause, Query.conditionsClause, chars]

end Words

/-- The look-up by primary key and a filter on the primary key agree.

An identifier is taken exactly if the filter has a parameter with a value that is no list, and
so exactly if it compares the key as equal.  The query is then the one with that filter.  All
else is refused as invalid: null, every list and the two sentinel texts, and nothing more.

Where the table, the root alias and the key are plain names, the look-up of every identifier
that is taken is rendered as one and the same text, with the identifier as its only value. -/
theorem idQuery_agrees (keyed : repository.entity.primaryKey = some primaryKey) (id : Value) :
    let rootAlias := repository.entity.rootAlias
    let table := repository.entity.table
    ((∃ query, repository.idQuery id = .ok query) ↔
      ∃ predicate name value,
        Predicate.resolve rootAlias primaryKey id false = some predicate ∧
          predicate.parameter = some (name, value) ∧ value.items? = none) ∧
    ((∃ query, repository.idQuery id = .ok query) ↔
      Predicate.resolve rootAlias primaryKey id false =
        some (.equality rootAlias primaryKey id false)) ∧
    (∀ query, repository.idQuery id = .ok query →
      query = (Query.ofTable table rootAlias).addCriterion rootAlias primaryKey id false) ∧
    ((∃ cause, repository.idQuery id = .error (.validation cause)) ↔
      ¬∃ query, repository.idQuery id = .ok query) ∧
    ((∃ cause, repository.idQuery id = .error (.validation cause)) ↔
      id = .null ∨ (∃ items, id = .list items) ∨ id = .text Value.nullSentinel ∨
        id = .text Value.notNullSentinel) ∧
    (Text.isIdentifier table → Text.isIdentifier rootAlias → '.' ∉ rootAlias.toList →
      Text.IsWord primaryKey → ∀ query, repository.idQuery id = .ok query →
        ∃ statement, query.statement = .ok statement ∧
          statement.sql = "SELECT " ++ rootAlias ++ ".* FROM " ++ table ++ " " ++ rootAlias ++
            " WHERE " ++ rootAlias ++ "." ++ primaryKey ++ " = $1" ∧
          statement.parameters = [id]) := by
  intro rootAlias table
  have taken : (∃ query, repository.idQuery id = .ok query) ↔ id.shape = .scalar := by
    simp [idQuery_eq_ok_iff keyed]
  refine ⟨?_, ?_, ?_, ?_, ?_, ?_⟩
  · rw [taken, Predicate.resolve_binds_iff]
  · rw [taken, Predicate.resolve_eq_equality_iff]
  · intro query composed
    obtain ⟨scalar, rfl⟩ := (idQuery_eq_ok_iff keyed).1 composed
    exact lookup_eq_addCriterion scalar
  · rw [idQuery_refused_iff keyed, taken]
  · rw [idQuery_refused_iff keyed, Value.shape_ne_scalar_iff]
  · intro tableName aliasName dotFree keyWord query composed
    obtain ⟨scalar, rfl⟩ := (idQuery_eq_ok_iff keyed).1 composed
    have aliasWord := Text.isWord_of_isIdentifier aliasName dotFree
    obtain ⟨statement, rendered⟩ :=
      exists_statement_lookup aliasWord keyWord scalar tableName aliasName
    have symbols := symbols_lookup aliasWord keyWord scalar rendered
    obtain ⟨sql, parameters⟩ := sql_of_last_bound symbols
    exact ⟨statement, rendered, sql.trans (String.append_assoc ..), parameters⟩

/-- The repository of users that are identified by a key. -/
def keyedUsers : Repository Unit :=
  .create
    { table := "users", rootAlias := "u", columns := ["id", "status"], primaryKey := some "id" }
    .empty (fun table column => table == "users" && column == "status") {} fun _ => .ok ()

/-- A text that looks like a condition is compared as the text that it is, and a sentinel text
is refused. -/
theorem idQuery_agrees_keyedUsers :
    (∃ query statement, keyedUsers.idQuery (.text "1 OR TRUE") = .ok query ∧
      query.statement = .ok statement ∧
      statement.sql = "SELECT u.* FROM users u WHERE u.id = $1" ∧
      statement.parameters = [.text "1 OR TRUE"]) ∧
    ∃ cause, keyedUsers.idQuery (.text "NOT NULL") = .error (.validation cause) := by
  have keyed : keyedUsers.entity.primaryKey = some "id" := rfl
  have composed : keyedUsers.idQuery (.text "1 OR TRUE") =
      .ok (keyedUsers.lookup "id" (.text "1 OR TRUE")) := rfl
  obtain ⟨-, -, -, -, -, renders⟩ := idQuery_agrees keyed (.text "1 OR TRUE")
  obtain ⟨statement, rendered, sql, parameters⟩ :=
    renders (by decide) (by decide) (by decide) (by decide) _ composed
  obtain ⟨-, -, -, -, refused, -⟩ := idQuery_agrees keyed (.text "NOT NULL")
  exact ⟨⟨_, statement, composed, rendered, sql, parameters⟩,
    refused.2 (.inr (.inr (.inr rfl)))⟩

end Repository

end CriteriaQuery
