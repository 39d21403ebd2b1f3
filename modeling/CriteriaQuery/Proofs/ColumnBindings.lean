import CriteriaQuery.Proofs.FilterBinding
import CriteriaQuery.Proofs.Insertions

/-!
# What columns of several aliases are bound to

A filter may be on a column of any alias.  Its parameter is named after the alias and the
column with an underscore between them, so two filters share a parameter not only if they
are on the same column of the same alias: an alias may also take over the beginning of the
other column, as `team_lead` with `id` does of `team` with `lead_id`.

The condition of a filter is bound to the value of the last filter from it on that binds
its parameter.
-/

namespace CriteriaQuery

/-- Between the same texts, values can be told apart exactly as far as what they bind. -/
theorem Statement.between_valueSymbols_inj {opening closing : String} {left right : Value} :
    chars opening ++ valueSymbols left ++ chars closing =
        chars opening ++ valueSymbols right ++ chars closing ↔
      left.bindings = right.bindings := by
  rw [List.append_cancel_right_eq, List.append_cancel_left_eq, valueSymbols_inj]

/-- A filter on a column of an alias, with the value that is looked for. -/
structure ColumnCriterion where
  rootAlias : String
  filter : ColumnFilter
  value : Value

namespace ColumnCriterion

/-- The predicate that a filter turns into. -/
def predicate? (criterion : ColumnCriterion) : Option Predicate :=
  criterion.filter.predicate? criterion.rootAlias criterion.value

/-- The alias and the column that a filter is on. -/
def target (criterion : ColumnCriterion) : String × String :=
  (criterion.rootAlias, criterion.filter.column)

/-- The name of the parameter of a filter. -/
def parameterName (criterion : ColumnCriterion) : String :=
  Predicate.parameterName criterion.rootAlias criterion.filter.column

/-- Whether the alias of a filter takes over the beginning of the column of another. -/
def TakesOver (criterion other : ColumnCriterion) : Prop :=
  ∃ taken, criterion.rootAlias = other.rootAlias ++ "_" ++ taken ∧
    other.filter.column = taken ++ "_" ++ criterion.filter.column

/-- Whether a filter binds its value to the parameter of a name. -/
def binds (name : String) (criterion : ColumnCriterion) : Bool :=
  criterion.value.shape.isBound && criterion.parameterName == name

/-- The last filter that binds the parameter of a filter, among itself and later ones. -/
def lastBinding (criterion : ColumnCriterion) (later : List ColumnCriterion) :
    ColumnCriterion :=
  (later.filter (binds criterion.parameterName)).getLast?.getD criterion

section Names

variable {criterion other : ColumnCriterion}

/-- Two names that are the same are cut at the same place, or one alias takes over. -/
theorem takesOver_of_append {more : List Char}
    (longer : other.rootAlias.toList = criterion.rootAlias.toList ++ more)
    (behind : '_' :: criterion.filter.column.toList = more ++ '_' :: other.filter.column.toList) :
    criterion.target = other.target ∨ other.TakesOver criterion := by
  cases more with
  | nil =>
      rw [List.append_nil] at longer
      have columns := (List.cons.inj behind).2
      exact .inl (Prod.ext (String.toList_inj.1 longer).symm (String.toList_inj.1 columns))
  | cons char taken =>
      obtain ⟨underscore, columns⟩ := List.cons.inj behind
      refine .inr ⟨String.ofList taken, String.toList_inj.1 ?_, String.toList_inj.1 ?_⟩
      · simp [longer, ← underscore]
      · simp [columns]

theorem TakesOver.parameterName_eq (takesOver : criterion.TakesOver other) :
    criterion.parameterName = other.parameterName := by
  obtain ⟨taken, aliases, columns⟩ := takesOver
  simp only [parameterName, Predicate.parameterName, aliases, columns, String.append_assoc]

/-- Two filters share a parameter exactly if they are on the same column or the alias of one
takes over the beginning of the column of the other. -/
theorem parameterName_eq_iff :
    criterion.parameterName = other.parameterName ↔
      criterion.target = other.target ∨ criterion.TakesOver other ∨
        other.TakesOver criterion := by
  constructor
  · intro same
    have letters := congrArg String.toList same
    simp only [parameterName, Predicate.parameterName, String.toList_append,
      List.append_assoc] at letters
    obtain ⟨more, longer, behind⟩ | ⟨more, longer, behind⟩ :=
      List.append_eq_append_iff.1 letters
    · exact (takesOver_of_append longer behind).imp_right .inr
    · exact (takesOver_of_append longer behind).imp Eq.symm .inl
  · intro alike
    obtain same | takesOver | takesOver := alike
    · obtain ⟨aliases, columns⟩ := Prod.mk.inj same
      rw [parameterName, parameterName, aliases, columns]
    · exact takesOver.parameterName_eq
    · exact takesOver.parameterName_eq.symm

/-- A filter on another column binds the parameter of a filter exactly if it has a value to
bind and one of the two takes over from the other. -/
theorem binds_iff_of_target_ne (different : other.target ≠ criterion.target) :
    other.binds criterion.parameterName ↔
      other.value.shape.isBound ∧ (other.TakesOver criterion ∨ criterion.TakesOver other) := by
  rw [binds, Bool.and_eq_true, beq_iff_eq]
  exact and_congr_right' (parameterName_eq_iff.trans (or_iff_right different))

/-- Of filters on pairwise different columns, a later one binds the parameter of an earlier
one exactly if it has a value to bind and one of the two takes over from the other. -/
theorem binds_iff_of_nodup {before after : List ColumnCriterion}
    (distinct : ((before ++ criterion :: after).map target).Nodup) (later : other ∈ after) :
    other.binds criterion.parameterName ↔
      other.value.shape.isBound ∧ (other.TakesOver criterion ∨ criterion.TakesOver other) := by
  apply binds_iff_of_target_ne
  intro same
  rw [List.map_append, List.map_cons, List.nodup_append, List.nodup_cons] at distinct
  exact distinct.2.1.1 (same ▸ List.mem_map_of_mem later)

/-- An alias that takes over has an underscore. -/
theorem TakesOver.underscore_mem (takesOver : criterion.TakesOver other) :
    '_' ∈ criterion.rootAlias.toList := by
  obtain ⟨taken, aliases, -⟩ := takesOver
  simp [aliases]

end Names

theorem predicate?_parameter (criterion : ColumnCriterion) :
    criterion.predicate?.bind Predicate.parameter =
      if criterion.value.shape.isBound then some (criterion.parameterName, criterion.value)
      else none :=
  Predicate.resolve_parameter _ _ _ _

/-- The values that filters bind to the parameter of a name, in order. -/
theorem parameters_named (name : String) (criteria : List ColumnCriterion) :
    ((criteria.filterMap predicate?).filterMap Predicate.parameter).filter (·.1 == name) =
      (criteria.filter (binds name)).map fun criterion => (name, criterion.value) := by
  rw [List.filterMap_filterMap]
  induction criteria with
  | nil => rfl
  | cons criterion rest ih =>
      rw [List.filterMap_cons, predicate?_parameter]
      cases bound : criterion.value.shape.isBound with
      | false => simpa [binds, bound] using ih
      | true =>
          by_cases same : criterion.parameterName = name
          · simpa [binds, bound, same] using ih
          · simpa [binds, bound, same] using ih

/-- Where no later filter binds the parameter of a filter, it is the last itself. -/
theorem lastBinding_eq_self {criterion : ColumnCriterion} {later : List ColumnCriterion}
    (alone : ∀ other ∈ later, ¬other.binds criterion.parameterName) :
    criterion.lastBinding later = criterion := by
  rw [lastBinding, List.filter_eq_nil_iff.2 alone]
  rfl

end ColumnCriterion

namespace Query

open Statement

/-- Add filters on columns one after the other. -/
def addColumnCriteria (query : Query) (criteria : List ColumnCriterion) : Query :=
  criteria.foldl (fun query criterion =>
    query.addCriterion criterion.rootAlias criterion.filter.column criterion.value
      criterion.filter.exclude) query

/-- Filters on columns add their predicates. -/
theorem addColumnCriteria_eq (query : Query) (criteria : List ColumnCriterion) :
    query.addColumnCriteria criteria =
      query.addPredicates (criteria.filterMap ColumnCriterion.predicate?) := by
  induction criteria generalizing query with
  | nil => rfl
  | cons criterion rest ih =>
      have step : query.addColumnCriteria (criterion :: rest) =
          (query.addPredicates criterion.predicate?.toList).addColumnCriteria rest :=
        congrArg (addColumnCriteria · rest) (addCriterion_eq query _ criterion.filter _)
      rw [step, ih, ← addPredicates_append, List.filterMap_cons]
      cases criterion.predicate? <;> rfl

/-- The parameter of a filter that binds it has the value of the last filter that does. -/
theorem get?_addColumnCriteria (query : Query) (before after : List ColumnCriterion)
    {criterion : ColumnCriterion} (bound : criterion.value.shape.isBound = true) :
    (query.addColumnCriteria (before ++ criterion :: after)).parameters.get?
        criterion.parameterName = some (criterion.lastBinding after).value := by
  have binding : criterion.binds criterion.parameterName = true := by
    simp [ColumnCriterion.binds, bound]
  rw [addColumnCriteria_eq, addPredicates_eq]
  change (query.parameters.insertAll _).get? _ = _
  rw [OrderedMap.get?_insertAll, ColumnCriterion.parameters_named, List.filter_append,
    List.filter_cons_of_pos binding, List.getLast?_map, List.getLast?_append, List.getLast?_cons]
  rfl

/-- The condition of a filter stands behind those of the filters before it. -/
theorem getElem?_conditions_addColumnCriteria (query : Query)
    (before after : List ColumnCriterion) {criterion : ColumnCriterion} {predicate : Predicate}
    (resolved : criterion.predicate? = some predicate) :
    (query.addColumnCriteria (before ++ criterion :: after)).conditions[
        query.conditions.length + (before.filterMap ColumnCriterion.predicate?).length]? =
      some predicate.condition := by
  rw [addColumnCriteria_eq, addPredicates_eq, List.filterMap_append,
    List.filterMap_cons_some resolved]
  simp

/-- The condition of a filter is written around its parameter and rendered around the value
of the last filter from it on that binds that parameter. -/
theorem conditionImage_addColumnCriteria (query : Query) (before after : List ColumnCriterion)
    {criterion : ColumnCriterion} {predicate : Predicate}
    (aliasWord : Text.IsWord criterion.rootAlias)
    (columnWord : Text.IsWord criterion.filter.column)
    (resolved : criterion.predicate? = some predicate) (bound : predicate.parameter ≠ none) :
    ∃ opening closing : String,
      predicate.condition = opening ++ ":" ++ criterion.parameterName ++ closing ∧
        (query.addColumnCriteria (before ++ criterion :: after)).conditionImages[
            query.conditions.length + (before.filterMap ColumnCriterion.predicate?).length]? =
          some (chars opening ++ valueSymbols (criterion.lastBinding after).value ++
            chars closing) := by
  obtain ⟨opening, closing, written, plainOpening, plainClosing, stops⟩ :=
    Predicate.resolve_reference resolved bound aliasWord columnWord
  have inQuery := getElem?_conditions_addColumnCriteria query before after resolved
  have value := get?_addColumnCriteria query before after
    (Predicate.parameter_eq resolved bound).1
  have word : Text.IsWord criterion.parameterName :=
    Predicate.isWord_parameterName aliasWord columnWord
  have nonempty : criterion.parameterName ≠ "" := Predicate.parameterName_ne_empty _ _
  have around := expressionImage_reference
    (query.addColumnCriteria (before ++ criterion :: after)).parameters plainOpening nonempty
    word plainClosing stops
  rw [value] at around
  refine ⟨opening, closing, written, ?_⟩
  rw [conditionImages, List.getElem?_map, inQuery, written]
  exact congrArg some around

/-- What the condition of a filter is bound to, in a new query with filters on pairwise
different columns.

The condition is rendered around the value of the last filter from it on that binds its
parameter, item by item if that is a list, and so around its own value exactly if the two
bind the same values.  The later filters that bind its parameter are those with a value to
bind whose alias takes over the beginning of its column, or the other way round.  Where no
alias has an underscore there are none. -/
theorem condition_bound_iff {table rootAlias : String}
    {criteria before after : List ColumnCriterion} {criterion : ColumnCriterion}
    {predicate : Predicate} {statement : Statement}
    (words : ∀ criterion ∈ criteria,
      Text.IsWord criterion.rootAlias ∧ Text.IsWord criterion.filter.column)
    (distinct : (criteria.map ColumnCriterion.target).Nodup)
    (rendered : ((ofTable table rootAlias).addColumnCriteria criteria).statement = .ok statement)
    (split : criteria = before ++ criterion :: after)
    (resolved : criterion.predicate? = some predicate) (bound : predicate.parameter ≠ none) :
    ∃ opening closing : String,
      let query := (ofTable table rootAlias).addColumnCriteria criteria
      let place := (before.filterMap ColumnCriterion.predicate?).length
      let last := criterion.lastBinding after
      statement.symbols =
          query.headSymbols ++ joinsClause query.joinImages ++
            conditionsClause query.conditionImages ++ query.tailSymbols ∧
        query.conditions[place]? = some predicate.condition ∧
        predicate.condition = opening ++ ":" ++ criterion.parameterName ++ closing ∧
        query.conditionImages[place]? =
          some (chars opening ++ valueSymbols last.value ++ chars closing) ∧
        (query.conditionImages[place]? =
            some (chars opening ++ valueSymbols criterion.value ++ chars closing) ↔
          last.value.bindings = criterion.value.bindings) ∧
        (∀ other ∈ after, other.binds criterion.parameterName ↔
          other.value.shape.isBound ∧
            (other.TakesOver criterion ∨ criterion.TakesOver other)) ∧
        ((∀ criterion ∈ criteria, '_' ∉ criterion.rootAlias.toList) → last = criterion) := by
  subst split
  have member : criterion ∈ before ++ criterion :: after := by simp
  obtain ⟨aliasWord, columnWord⟩ := words criterion member
  -- a new query has no conditions, so the predicates before the filter count its place
  have place : (ofTable table rootAlias).conditions.length +
        (before.filterMap ColumnCriterion.predicate?).length =
      (before.filterMap ColumnCriterion.predicate?).length := Nat.zero_add _
  have inQuery := getElem?_conditions_addColumnCriteria (ofTable table rootAlias) before after
    resolved
  obtain ⟨opening, closing, written, image⟩ := conditionImage_addColumnCriteria
    (ofTable table rootAlias) before after aliasWord columnWord resolved bound
  rw [place] at inQuery image
  refine ⟨opening, closing, symbols_of_statement rendered, inQuery, written, image, ?_,
    fun _ later => ColumnCriterion.binds_iff_of_nodup distinct later, ?_⟩
  · rw [image, Option.some_inj, between_valueSymbols_inj]
  · intro noUnderscore
    apply ColumnCriterion.lastBinding_eq_self
    intro other later binding
    have otherMember : other ∈ before ++ criterion :: after := by simp [later]
    obtain takesOver | takesOver :=
      ((ColumnCriterion.binds_iff_of_nodup distinct later).1 binding).2
    · exact noUnderscore other otherMember takesOver.underscore_mem
    · exact noUnderscore criterion member takesOver.underscore_mem

/-- Teams by the one who leads them. -/
def leadOfTeam (lead : Value) : ColumnCriterion where
  rootAlias := "team"
  filter := { column := "lead_id", exclude := false }
  value := lead

/-- Leads of teams, by what identifies them. -/
def teamLead (id : Value) : ColumnCriterion where
  rootAlias := "team_lead"
  filter := { column := "id", exclude := false }
  value := id

/-- The later of two filters that share a parameter is bound to its own value. -/
theorem condition_bound_iff_teamLead :
    let query := (ofTable "users" "u").addColumnCriteria
      [leadOfTeam (.int 1), teamLead (.list [.int 2, .int 3])]
    ∃ statement, query.statement = .ok statement ∧
      ∃ opening closing : String,
        query.conditions[1]? = some (opening ++ ":" ++ "team_lead_id" ++ closing) ∧
          query.conditionImages[1]? =
            some (chars opening ++ valueSymbols (.list [.int 2, .int 3]) ++ chars closing) := by
  let criteria := [leadOfTeam (.int 1), teamLead (.list [.int 2, .int 3])]
  intro query
  have words : ∀ criterion ∈ criteria,
      Text.IsWord criterion.rootAlias ∧ Text.IsWord criterion.filter.column := by
    simp only [criteria, List.forall_mem_cons]
    decide
  have distinct : (criteria.map ColumnCriterion.target).Nodup := by decide
  have split : criteria =
      [leadOfTeam (.int 1)] ++ teamLead (.list [.int 2, .int 3]) :: [] := rfl
  have resolved : (teamLead (.list [.int 2, .int 3])).predicate? =
      some (.membership "team_lead" "id" (.list [.int 2, .int 3]) false) := rfl
  have bound : (Predicate.membership "team_lead" "id" (.list [.int 2, .int 3]) false).parameter ≠
      none := by simp [Predicate.membership]
  have text : query.statement.map Statement.sql = .ok ("SELECT u.* FROM users u " ++
      "WHERE (team.lead_id = $1, $2) AND (team_lead.id IN ($3, $4))") := by
    decide +kernel
  obtain ⟨statement, rendered, -⟩ := Except.map_eq_ok text
  obtain ⟨opening, closing, -, placed, written, -, own, -⟩ :=
    condition_bound_iff words distinct rendered split resolved bound
  refine ⟨statement, rendered, opening, closing, ?_, own.2 rfl⟩
  exact placed.trans (congrArg some written)

/-- Filters on different columns, of which the first is bound to the value of the second. -/
theorem condition_bound_to_other_column :
    let query := (ofTable "users" "u").addColumnCriteria
      [leadOfTeam (.int 1), teamLead (.int 2)]
    (leadOfTeam (.int 1)).target ≠ (teamLead (.int 2)).target ∧
      ∃ statement, query.statement = .ok statement ∧
        statement.sql =
          "SELECT u.* FROM users u WHERE (team.lead_id = $1) AND (team_lead.id = $2)" ∧
        statement.parameters = [.int 2, .int 2] ∧
        statement.parameters ≠ [.int 1, .int 2] := by
  intro query
  have text : query.statement.map Statement.sql =
      .ok "SELECT u.* FROM users u WHERE (team.lead_id = $1) AND (team_lead.id = $2)" := by
    decide +kernel
  obtain ⟨statement, rendered, sql⟩ := Except.map_eq_ok text
  have parameters : statement.parameters = [.int 2, .int 2] := parameters_of_statement rendered
  refine ⟨by decide, statement, rendered, sql, parameters, ?_⟩
  rw [parameters]
  simp

end Query

end CriteriaQuery
