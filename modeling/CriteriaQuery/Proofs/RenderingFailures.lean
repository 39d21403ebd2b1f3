import CriteriaQuery.Proofs.References

/-!
# When rendering fails

Rendering checks a query in a fixed order.  The selections that name an alias, the table and
the root alias have to be identifiers; after them every reference in the joins and then in
the conditions has to have a value.  The first check that fails decides the error, and there
is no other way to fail.

Sort keys, all other selections, the limit and the offset, and parameters to which nothing
refers are not looked at.
-/

namespace CriteriaQuery

section Failure

variable {ε α β : Type}

/-- The error of a computation, if it fails. -/
def failure? : Except ε α → Option ε
  | .error error => some error
  | .ok _ => none

theorem failure?_eq_some_iff {computed : Except ε α} {error : ε} :
    failure? computed = some error ↔ computed = .error error := by
  cases computed with
  | error other => simp [failure?]
  | ok value => simp [failure?]

theorem failure?_eq_none_iff {computed : Except ε α} :
    failure? computed = none ↔ ∃ value, computed = .ok value := by
  cases computed with
  | error other => simp [failure?]
  | ok value => simp [failure?]

theorem failure?_map (computed : Except ε α) (image : α → β) :
    failure? (computed.map image) = failure? computed := by
  cases computed <;> rfl

/-- Where the failure of what follows does not depend on the value before it, a sequence fails
with the first of the two failures. -/
theorem failure?_bind {first : Except ε α} {next : α → Except ε β} (later : Option ε)
    (after : ∀ value, failure? (next value) = later) :
    failure? (first >>= next) = (failure? first).or later := by
  cases first with
  | error error => rfl
  | ok value => exact after value

/-- A computation on a list fails with the first failure of an item. -/
theorem failure?_mapM (compute : α → Except ε β) (items : List α) :
    failure? (items.mapM compute) = items.findSome? fun item => failure? (compute item) := by
  induction items with
  | nil => rfl
  | cons item rest ih =>
      have others (value : β) :
          failure? (rest.mapM compute >>= fun values => pure (value :: values)) =
            rest.findSome? fun item => failure? (compute item) := by
        rw [failure?_bind none fun _ => rfl, ih, Option.or_none]
      rw [List.mapM_cons, failure?_bind _ others, List.findSome?_cons]
      cases failure? (compute item) <;> rfl

/-- The first failure of a check is that of the first item that does not pass it. -/
theorem findSome?_check (passes : α → Bool) (failure : α → ε) (items : List α) :
    (items.findSome? fun item => if passes item then none else some (failure item)) =
      (items.find? fun item => !passes item).map failure := by
  induction items with
  | nil => rfl
  | cons item rest ih =>
      rw [List.findSome?_cons, List.find?_cons]
      cases passes item with
      | true => simpa using ih
      | false => simp

/-- A check fails exactly if an item does not pass it, and then with the failure of the first
such item. -/
theorem firstFailure_eq_some_iff {passes : α → Bool} {failure : α → ε} {items : List α} {error : ε} :
    (items.find? fun item => !passes item).map failure = some error ↔
      ∃ before item after, items = before ++ item :: after ∧
        (∀ earlier ∈ before, passes earlier) ∧ ¬passes item ∧ error = failure item := by
  simp only [Option.map_eq_some_iff, List.find?_eq_some_iff_append, Bool.not_not,
    Bool.not_eq_true', Bool.not_eq_true]
  constructor
  · intro found
    obtain ⟨item, ⟨fails, before, after, split, pass⟩, same⟩ := found
    exact ⟨before, item, after, split, pass, fails, same.symm⟩
  · intro found
    obtain ⟨before, item, after, split, pass, fails, same⟩ := found
    exact ⟨item, ⟨fails, before, after, split, pass⟩, same.symm⟩

/-- Items that are chosen fail as what they were chosen from. -/
theorem findSome?_filterMap (choose : α → Option β) (failure : β → Option ε) (items : List α) :
    (items.filterMap choose).findSome? failure =
      items.findSome? fun item => (choose item).bind failure := by
  induction items with
  | nil => rfl
  | cons item rest ih =>
      rw [List.filterMap_cons, List.findSome?_cons]
      cases choose item with
      | none => exact ih
      | some chosen => rw [List.findSome?_cons, ih, Option.bind_some]

end Failure

namespace Statement

theorem failure?_identifierSymbols (text : String) :
    failure? (identifierSymbols text) =
      if Text.isIdentifier text then none else some (.validation (.identifier text)) := by
  rw [identifierSymbols]
  split <;> rfl

/-- An expression fails at its first reference without a value. -/
theorem failure?_expressionSymbols (parameters : OrderedMap String Value) (text : String) :
    failure? (expressionSymbols parameters text) =
      ((Token.references text).find? fun name => !(parameters.get? name).isSome).map
        fun name => .configuration (.unboundParameter name) := by
  rw [expressionSymbols, failure?_bind none fun _ => rfl, Option.or_none, failure?_mapM,
    ← findSome?_check, Token.references, Token.references_scan, findSome?_filterMap]
  congr 1
  funext token
  cases token with
  | reference name =>
      simp only [tokenSymbols, Token.name?, Option.bind_some]
      cases parameters.get? (String.ofList name) <;> rfl
  | quoted | cast | plain => rfl

end Statement

namespace Query

open Statement

/-- The texts that have to be identifiers, in the order in which they are checked: the
selections that name an alias, the table and the root alias. -/
def identifiers (query : Query) : List String :=
  query.selections.filter (· ∈ query.aliases) ++ [query.table, query.rootAlias]

/-- The names that have to be bound, in the order in which they are looked up: the references
of the joins, group by group, and of the conditions. -/
def references (query : Query) : List String :=
  (query.allJoins.flatMap fun join => Token.references join.text) ++
    query.conditions.flatMap Token.references

/-- The first text that has to be an identifier and is none. -/
def invalidIdentifier? (query : Query) : Option String :=
  query.identifiers.find? fun text => !Text.isIdentifier text

/-- The first name that has to be bound and is not. -/
def unboundReference? (query : Query) : Option String :=
  query.references.find? fun name => !(query.parameters.get? name).isSome

/-- Selections fail at the first one that names an alias and is no identifier. -/
theorem failure?_selections (aliases selections : List String) :
    failure? (selections.mapM (selectionSymbols aliases)) =
      ((selections.filter (· ∈ aliases)).find? fun text => !Text.isIdentifier text).map
        fun text => .validation (.identifier text) := by
  rw [failure?_mapM, ← findSome?_check, ← List.filterMap_eq_filter, findSome?_filterMap]
  congr 1
  funext text
  by_cases known : text ∈ aliases
  · simp [selectionSymbols, known, failure?_map, failure?_identifierSymbols, Option.guard]
  · simp [selectionSymbols, known, failure?, Option.guard]

/-- The identifiers of a query fail with the first that is none. -/
theorem failure?_identifiers (query : Query) :
    (failure? (query.selections.mapM (selectionSymbols query.aliases))).or
        ((failure? (identifierSymbols query.table)).or
          (failure? (identifierSymbols query.rootAlias))) =
      query.invalidIdentifier?.map fun text => .validation (.identifier text) := by
  rw [failure?_selections, failure?_identifierSymbols, failure?_identifierSymbols,
    invalidIdentifier?, identifiers, List.find?_append, Option.map_or]
  congr 1
  rw [List.find?_cons, List.find?_cons]
  cases Text.isIdentifier query.table <;> cases Text.isIdentifier query.rootAlias <;> rfl

/-- The expressions of a query fail at the first reference without a value. -/
theorem failure?_references (query : Query) :
    (failure? (query.allJoins.mapM fun join =>
        expressionSymbols query.parameters join.text)).or
        (failure? (query.conditions.mapM (expressionSymbols query.parameters))) =
      query.unboundReference?.map fun name => .configuration (.unboundParameter name) := by
  simp only [failure?_mapM, failure?_expressionSymbols, unboundReference?, references,
    List.find?_append, List.find?_flatMap, List.map_findSome?, Option.map_or]
  rfl

/-- The first of the checks that fails decides the error of rendering. -/
theorem failure?_statement (query : Query) :
    failure? query.statement =
      (query.invalidIdentifier?.map fun text => .validation (.identifier text)).or
        (query.unboundReference?.map fun name => .configuration (.unboundParameter name)) := by
  have steps : failure? query.statement =
      (failure? (query.selections.mapM (selectionSymbols query.aliases))).or
        ((failure? (identifierSymbols query.table)).or
          ((failure? (identifierSymbols query.rootAlias)).or
            ((failure? (query.allJoins.mapM fun join =>
              expressionSymbols query.parameters join.text)).or
                (failure? (query.conditions.mapM (expressionSymbols query.parameters)))))) := by
    rw [statement, ← Option.or_none (o := failure? (query.conditions.mapM _))]
    exact failure?_bind _ fun _ => failure?_bind _ fun _ => failure?_bind _ fun _ =>
      failure?_bind _ fun _ => failure?_bind _ fun _ => rfl
  rw [steps, ← failure?_identifiers, ← failure?_references, Option.or_assoc, Option.or_assoc]

/-- Rendering fails exactly if a text that has to be an identifier is none, and then the first
such text is reported, or all are identifiers and a reference has no value, and then the first
such reference is. -/
theorem statement_eq_error_iff {query : Query} {error : QueryError} :
    query.statement = .error error ↔
      (∃ before text after, query.identifiers = before ++ text :: after ∧
        (∀ earlier ∈ before, Text.isIdentifier earlier) ∧ ¬Text.isIdentifier text ∧
        error = .validation (.identifier text)) ∨
      (∀ text ∈ query.identifiers, Text.isIdentifier text) ∧
        ∃ before name after, query.references = before ++ name :: after ∧
          (∀ earlier ∈ before, (query.parameters.get? earlier).isSome) ∧
          ¬(query.parameters.get? name).isSome ∧
          error = .configuration (.unboundParameter name) := by
  have valid : query.invalidIdentifier?.map
        (fun text => QueryError.validation (.identifier text)) = none ↔
      ∀ text ∈ query.identifiers, Text.isIdentifier text := by
    simp [invalidIdentifier?, List.find?_eq_none]
  rw [← failure?_eq_some_iff, failure?_statement, Option.or_eq_some_iff, valid, invalidIdentifier?,
    unboundReference?, firstFailure_eq_some_iff, firstFailure_eq_some_iff]

/-- A query that differs in nothing that is checked fails as the query does. -/
theorem failure?_statement_congr (query other : Query)
    (identifiers : other.identifiers = query.identifiers)
    (references : other.references = query.references)
    (bound : ∀ name ∈ query.references,
      (other.parameters.get? name).isSome = (query.parameters.get? name).isSome) :
    failure? other.statement = failure? query.statement := by
  have unbound : other.unboundReference? = query.unboundReference? := by
    rw [unboundReference?, references, unboundReference?, ← List.head?_filter,
      ← List.head?_filter, List.filter_congr fun name inside => by rw [bound name inside]]
  rw [failure?_statement, failure?_statement, invalidIdentifier?, identifiers, unbound,
    invalidIdentifier?]

/-- When rendering a query fails, and with which error.

It succeeds exactly if the table, the root alias and every selection that names an alias are
identifiers, and every reference in the joins and in the conditions has a value.

Of the selections that name an alias, the table and the root alias, in this order, the first
that is no identifier is reported.  If all are identifiers, the first reference without a
value is, those of the joins in front of those of the conditions.

Selections that name no alias, sort keys, the limit and the offset do not matter, whatever
they refer to, and of the parameters only whether those that are referred to are bound. -/
theorem statement_first_failure (query : Query) :
    ((∃ statement, query.statement = .ok statement) ↔
      Text.isIdentifier query.table ∧ Text.isIdentifier query.rootAlias ∧
        (∀ text ∈ query.selections, text ∈ query.aliases → Text.isIdentifier text) ∧
        (∀ join ∈ query.allJoins, ∀ name ∈ Token.references join.text,
          (query.parameters.get? name).isSome) ∧
        ∀ text ∈ query.conditions, ∀ name ∈ Token.references text,
          (query.parameters.get? name).isSome) ∧
    (∀ error, query.statement = .error error ↔
      (∃ before text after, query.identifiers = before ++ text :: after ∧
        (∀ earlier ∈ before, Text.isIdentifier earlier) ∧ ¬Text.isIdentifier text ∧
        error = .validation (.identifier text)) ∨
      (∀ text ∈ query.identifiers, Text.isIdentifier text) ∧
        ∃ before name after, query.references = before ++ name :: after ∧
          (∀ earlier ∈ before, (query.parameters.get? earlier).isSome) ∧
          ¬(query.parameters.get? name).isSome ∧
          error = .configuration (.unboundParameter name)) ∧
    ∀ (selections : List String) (orderings : List SortKey)
      (parameters : OrderedMap String Value) (limit offset : Option Int64),
      selections.filter (· ∈ query.aliases) = query.selections.filter (· ∈ query.aliases) →
      (∀ name ∈ query.references,
        (parameters.get? name).isSome = (query.parameters.get? name).isSome) →
      ∀ error,
        Query.statement { query with selections, orderings, parameters, limit, offset } =
            .error error ↔
          query.statement = .error error := by
  refine ⟨exists_statement_iff, fun error => statement_eq_error_iff, ?_⟩
  intro selections orderings parameters limit offset named bound error
  have same := failure?_statement_congr query
    { query with selections, orderings, parameters, limit, offset }
    (congrArg (· ++ [query.table, query.rootAlias]) named) rfl bound
  rw [← failure?_eq_some_iff, same, failure?_eq_some_iff]

/-- A query for users that selects the columns of a team, whose alias is no identifier, and
refers to a team that is not bound. -/
def usersOfTeam (selections : List String) (parameters : List (String × Value)) : Query :=
  { ofTable "users" "u" with
    selections
    joins := .ofList [("u", [
      { kind := .left, target := "teams", joinAlias := "t-1", condition := some "id = :team" }])]
    conditions := ["u.city = ':city' AND u.age = :age"]
    orderings := [{ expression := ":column", direction := .ascending }]
    parameters := .ofList parameters }

theorem statement_first_failure_usersOfTeam :
    (usersOfTeam ["u", ":name", "t-1"] []).statement = .error (.validation (.identifier "t-1")) ∧
    (usersOfTeam ["u", ":name"] []).statement =
      .error (.configuration (.unboundParameter "team")) ∧
    (usersOfTeam ["u", ":name"] [("team", .int 7)]).statement =
      .error (.configuration (.unboundParameter "age")) ∧
    ∃ statement,
      (usersOfTeam ["u", ":name"] [("team", .int 7), ("age", .null)]).statement =
        .ok statement := by
  refine ⟨?_, ?_, ?_, ?_⟩
  · apply ((statement_first_failure _).2.1 _).2
    refine .inl ⟨["u"], "t-1", ["users", "u"], ?_, ?_⟩
    · rfl
    · decide
  · apply ((statement_first_failure _).2.1 _).2
    refine .inr ⟨by decide, [], "team", ["age"], ?_, ?_⟩
    · rfl
    · decide
  · apply ((statement_first_failure _).2.1 _).2
    refine .inr ⟨by decide, ["team"], "age", [], ?_, ?_⟩
    · rfl
    · decide
  · apply (statement_first_failure _).1.2
    decide

end Query

end CriteriaQuery
