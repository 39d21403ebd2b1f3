import CriteriaQuery.Proofs.Additive
import CriteriaQuery.Proofs.LifecycleRegistration
import CriteriaQuery.Repository.Basic

/-!
# Repositories described by tables

The lifecycle handlers are registered where their names are free, so they extend the
tables that describe the handlers of a program.  A repository made from handlers with
tables thus has tables itself.

What composing does with filters is then known: there is a point at which all of them
have been added, and nothing afterwards takes them away.
-/

namespace CriteriaQuery

/-- A table with an entry under a name, unless the name is taken. -/
def extend {β : Type} (table : String → Option β) (name : String) (entry : β) :
    String → Option β :=
  fun other => (table other).or (if other = name then some entry else none)

theorem extend_self {β : Type} {table : String → Option β} {name : String}
    (free : table name = none) (entry : β) : extend table name entry name = some entry := by
  simp [extend, free]

theorem extend_of_ne {β : Type} (table : String → Option β) {name other : String}
    (different : other ≠ name) (entry : β) : extend table name entry other = table other := by
  simp [extend, different]

theorem extend_cases {β : Type} {table : String → Option β} {name other : String}
    {entry found : β} (given : extend table name entry other = some found) :
    table other = some found ∨ (other = name ∧ found = entry) := by
  simp only [extend] at given
  cases taken : table other with
  | some value =>
      rw [taken, Option.some_or] at given
      exact .inl given
  | none =>
      rw [taken, Option.none_or] at given
      split at given
      · next same => exact .inr ⟨same, (Option.some.inj given).symm⟩
      · cases given

/-- A map that gets an entry for a free key is described by the table that gets it too. -/
theorem OrderedMap.get?_insert_free {β γ : Type} {map : OrderedMap String γ}
    {table : String → Option β} {image : β → γ}
    (described : ∀ name, map.get? name = (table name).map image)
    (name : String) (entry : β) (other : String) :
    (map.insertNew name (image entry)).get? other = (extend table name entry other).map image := by
  rw [get?_insertNew, described, extend, Option.map_or]
  congr 1
  split <;> rfl

/-- The filters of a table together with the lifecycle filters. -/
def ColumnFilters.withLifecycle (filters : ColumnFilters) (settings : Settings) :
    ColumnFilters :=
  extend
    (extend filters (Handlers.criterionName settings.statusField)
      { column := settings.statusField, exclude := false })
    (Handlers.criterionName settings.excludedStatusKey)
    { column := settings.statusField, exclude := true }

/-- The orderings of a table together with the ordering by the status. -/
def ColumnOrders.withLifecycle (columns : ColumnOrders) (settings : Settings) : ColumnOrders :=
  extend columns (Handlers.orderName settings.statusField) settings.statusField

/-- A filter of the extended table is one of the table, or filters by the status. -/
theorem ColumnFilters.withLifecycle_cases {filters : ColumnFilters} {settings : Settings}
    {name : String} {filter : ColumnFilter}
    (found : filters.withLifecycle settings name = some filter) :
    filters name = some filter ∨
      (name = Handlers.criterionName settings.statusField ∧
        filter = { column := settings.statusField, exclude := false }) ∨
      (name = Handlers.criterionName settings.excludedStatusKey ∧
        filter = { column := settings.statusField, exclude := true }) := by
  rcases extend_cases found with including | excluding
  · rcases extend_cases including with own | status
    · exact .inl own
    · exact .inr (.inl status)
  · exact .inr (.inr excluding)

namespace Handlers

variable {handlers : Handlers} {filters : ColumnFilters} {columns : ColumnOrders}

/-- Registering a filter under a free name extends the table of filters. -/
theorem FilterBy.extend (described : handlers.FilterBy filters) (field : String)
    (filter : ColumnFilter) :
    (if handlers.hasCriterion field then handlers
      else handlers.criterion field filter.handler).FilterBy
        (extend filters (criterionName field) filter) := by
  rw [criterion_of_free]
  exact OrderedMap.get?_insert_free described (criterionName field) filter

section EachSelection

variable {holds : SelectHandler → Prop}
  (each : ∀ name handler, handlers.selects.get? name = some handler → holds handler)

include each

/-- What holds of every handler of a selection holds with the lifecycle handlers too, as
these select nothing. -/
theorem forall_selects_withLifecycle (settings : Settings) :
    ∀ name handler, (handlers.withLifecycle settings).selects.get? name = some handler →
      holds handler := by
  rw [selects_withLifecycle]
  exact each

/-- It holds with one more handler of which it holds. -/
theorem forall_selects_select (field : String) {added : SelectHandler} (new : holds added) :
    ∀ name handler, (handlers.select field added).selects.get? name = some handler →
      holds handler := by
  intro name handler stored
  by_cases same : name = selectName field
  · rw [same, Handlers.select, OrderedMap.get?_insert_self] at stored
    cases stored
    exact new
  · rw [Handlers.select, OrderedMap.get?_insert_of_ne _ same] at stored
    exact each name handler stored

end EachSelection

theorem SelectsAppend.withLifecycle {parts : List QueryPart}
    (selected : handlers.SelectsAppend parts) (settings : Settings) :
    (handlers.withLifecycle settings).SelectsAppend parts :=
  forall_selects_withLifecycle selected settings

theorem FilterBy.withLifecycle (described : handlers.FilterBy filters) (settings : Settings) :
    (handlers.withLifecycle settings).FilterBy (filters.withLifecycle settings) := by
  have including := OrderedMap.get?_insert_free described (criterionName settings.statusField)
    { column := settings.statusField, exclude := false }
  have excluding := OrderedMap.get?_insert_free including
    (criterionName settings.excludedStatusKey) { column := settings.statusField, exclude := true }
  rw [withLifecycle_eq]
  exact excluding

theorem OrderBy.withLifecycle (ordered : handlers.OrderBy columns) (settings : Settings) :
    (handlers.withLifecycle settings).OrderBy (columns.withLifecycle settings) := by
  rw [withLifecycle_eq]
  exact OrderedMap.get?_insert_free ordered (orderName settings.statusField) settings.statusField

end Handlers

namespace Repository

variable {α : Type} {repository : Repository α} {query : Query}

/-- A repository made from handlers with a table of filters has such a table. -/
theorem filterBy_create {handlers : Handlers} {filters : ColumnFilters}
    (described : handlers.FilterBy filters) (entity : Entity)
    (declares : String → String → Bool) (settings : Settings)
    (decode : Row → Except QueryError α) :
    (create entity handlers declares settings decode).handlers.FilterBy
      (if declares entity.table settings.statusField then filters.withLifecycle settings
        else filters) := by
  simp only [create]
  split
  · exact described.withLifecycle settings
  · exact described

/-- In the query for one entity the filters stay as they were when all had been added. -/
theorem oneQuery_filtered (keep : repository.handlers.KeepFilters) {criteria : Criteria}
    {selects : List String} (composed : (repository.oneQuery criteria selects).result = .ok query) :
    ∃ filtered : Query,
      (repository.handlers.addCriteria (repository.augment criteria)
        repository.freshQuery).result = .ok filtered ∧ filtered.KeepsFilters query := by
  simp only [oneQuery, Pass.result_andThen] at composed
  rcases Except.bind_eq_ok composed with ⟨filtered, added, composed⟩
  rcases Except.bind_eq_ok composed with ⟨selected, withSelects, dropped⟩
  refine ⟨filtered, added, ?_⟩
  exact (keep.addSelects withSelects).trans (Query.dropDuplicates_keepsFilters dropped)

/-- In the query for a list they do as well. -/
theorem manyQuery_filtered (keep : repository.handlers.KeepFilters) {criteria : Criteria}
    {selects : List String} {orders : Orders}
    (composed : (repository.manyQuery criteria selects orders).result = .ok query) :
    ∃ filtered : Query,
      (repository.handlers.addCriteria (repository.augment criteria)
        repository.freshQuery).result = .ok filtered ∧ filtered.KeepsFilters query := by
  simp only [manyQuery, Pass.result_andThen] at composed
  rcases Except.bind_eq_ok composed with ⟨filtered, added, composed⟩
  rcases Except.bind_eq_ok composed with ⟨ordered, withOrders, composed⟩
  rcases Except.bind_eq_ok composed with ⟨selected, withSelects, dropped⟩
  refine ⟨filtered, added, ?_⟩
  exact ((keep.addOrders withOrders).trans (keep.addSelects withSelects)).trans
    (Query.dropDuplicates_keepsFilters dropped)

/-- A query from options starts with selections, and then its filters stay too. -/
theorem buildQuery_filtered (keep : repository.handlers.KeepFilters) {options : QueryOptions}
    (composed : (repository.buildQuery options).result = .ok query) :
    ∃ selected filtered : Query,
      (repository.handlers.addSelects options.select repository.freshQuery).result =
          .ok selected ∧
        (repository.handlers.addCriteria (repository.augment options.criteria)
          selected).result = .ok filtered ∧ filtered.KeepsFilters query := by
  simp only [buildQuery, Pass.result_andThen, Pass.result_update] at composed
  rcases Except.bind_eq_ok composed with ⟨selected, withSelects, composed⟩
  rcases Except.bind_eq_ok composed with ⟨filtered, added, composed⟩
  rcases Except.bind_eq_ok composed with ⟨ordered, withOrders, composed⟩
  rcases Except.bind_eq_ok composed with ⟨paginated, bounded, dropped⟩
  cases bounded
  refine ⟨selected, filtered, withSelects, added, ?_⟩
  have bounds : ordered.KeepsFilters
      ((ordered.setLimit options.limit).setOffset options.offset) :=
    ⟨List.prefix_refl _, fun _ _ found => found⟩
  exact ((keep.addOrders withOrders).trans bounds).trans
    (Query.dropDuplicates_keepsFilters dropped)

/-- A query that is composed from criteria in one of the three ways. -/
inductive Composes (repository : Repository α) (criteria : Criteria) (query : Query) : Prop where
  | one (selects : List String)
      (composed : (repository.oneQuery criteria selects).result = .ok query)
  | many (selects : List String) (orders : Orders)
      (composed : (repository.manyQuery criteria selects orders).result = .ok query)
  | built (options : QueryOptions) (given : options.criteria = criteria)
      (composed : (repository.buildQuery options).result = .ok query)

/-- In each of the three ways all filters are added at once, and they stay. -/
theorem Composes.filtered {criteria : Criteria} {parts : List QueryPart}
    (keep : repository.handlers.KeepFilters)
    (selected : repository.handlers.SelectsAppend parts)
    (composes : repository.Composes criteria query) :
    ∃ start filtered : Query, start.rootAlias = repository.entity.rootAlias ∧
      (repository.handlers.addCriteria (repository.augment criteria) start).result =
          .ok filtered ∧ filtered.KeepsFilters query := by
  cases composes with
  | one selects composed =>
      rcases oneQuery_filtered keep composed with ⟨filtered, added, kept⟩
      exact ⟨repository.freshQuery, filtered, rfl, added, kept⟩
  | many selects orders composed =>
      rcases manyQuery_filtered keep composed with ⟨filtered, added, kept⟩
      exact ⟨repository.freshQuery, filtered, rfl, added, kept⟩
  | built options given composed =>
      subst given
      rcases buildQuery_filtered keep composed with ⟨start, filtered, withSelects, added, kept⟩
      exact ⟨start, filtered, selected.rootAlias_eq withSelects, added, kept⟩

end Repository

/-- The repository of users that have a status. -/
def userRepository (handlers : Handlers) : Repository Unit :=
  .create { table := "users", rootAlias := "u", columns := ["id", "age", "status"] } handlers
    (fun table column => table == "users" && column == "status") {} fun _ => .ok ()

/-- The query for users that satisfy conditions. -/
def usersWhere (conditions : List String) (parameters : List (String × Value)) : Query :=
  { Query.ofTable "users" "u" with conditions, parameters := .ofList parameters }

theorem userRepository_filterBy {handlers : Handlers} {filters : ColumnFilters}
    (described : handlers.FilterBy filters) :
    (userRepository handlers).handlers.FilterBy (filters.withLifecycle {}) :=
  Repository.filterBy_create described _ _ _ _

theorem userRepository_keepFilters {handlers : Handlers} {columns : ColumnOrders}
    {parts : List QueryPart} (ordered : handlers.OrderBy columns)
    (selected : handlers.SelectsAppend parts) :
    (userRepository handlers).handlers.KeepFilters :=
  (ordered.withLifecycle {}).keepFilters (selected.withLifecycle {})

end CriteriaQuery
