import Mathlib.Data.List.Basic
import CriteriaQuery.Criteria.Dispatch
import CriteriaQuery.Proofs.Composition
import CriteriaQuery.Proofs.Shape

/-!
# Filters by columns

Handlers are functions, and a handler that filters by a column does one of two
things: it includes or excludes values of that column.  A table of such filters
describes a set of handlers completely, and what the filters of a request do to a
query can then be computed from the table: every filter adds the condition of its
predicate, and binds the parameter of that predicate over any value it had.
-/

namespace CriteriaQuery

/-- A filter by a column: the column, and whether values of it are excluded. -/
structure ColumnFilter where
  column : String
  exclude : Bool
deriving DecidableEq, Repr

namespace ColumnFilter

/-- The handler of a filter. -/
def handler (filter : ColumnFilter) : CriterionHandler :=
  .ofColumn filter.column filter.exclude

/-- The predicate of a filter for a value. -/
def predicate? (filter : ColumnFilter) (rootAlias : String) (value : Value) :
    Option Predicate :=
  Predicate.resolve rootAlias filter.column value filter.exclude

end ColumnFilter

/-- Filters by the names of their handlers. -/
abbrev ColumnFilters := String → Option ColumnFilter

namespace ColumnFilters

/-- The filter that a field goes to. -/
def filter? (filters : ColumnFilters) (field : String) : Option ColumnFilter :=
  filters (Handlers.criterionName field)

/-- The predicate that an entry of the filters of a request turns into. -/
def predicate? (filters : ColumnFilters) (rootAlias : String) (entry : String × Value) :
    Option Predicate :=
  (filters.filter? entry.1).bind fun filter => filter.predicate? rootAlias entry.2

/-- The predicates of entries, in order.  Entries without a field have none. -/
def predicates (filters : ColumnFilters) (rootAlias : String)
    (entries : List (String × Value)) : List Predicate :=
  (Handlers.namedEntries entries).filterMap (filters.predicate? rootAlias)

/-- Whether an entry binds its value to the parameter of a column. -/
def binds (filters : ColumnFilters) (column : String) (entry : String × Value) : Bool :=
  !entry.1.isEmpty && (filters.filter? entry.1).any (·.column == column) &&
    entry.2.shape.isBound

theorem predicates_append (filters : ColumnFilters) (rootAlias : String)
    (first second : List (String × Value)) :
    filters.predicates rootAlias (first ++ second) =
      filters.predicates rootAlias first ++ filters.predicates rootAlias second := by
  simp [predicates, Handlers.namedEntries]

/-- The parameter that an entry binds is that of the column it goes to. -/
theorem predicate?_parameter (filters : ColumnFilters) (rootAlias : String)
    (entry : String × Value) :
    (filters.predicate? rootAlias entry).bind Predicate.parameter =
      (filters.filter? entry.1).bind fun filter =>
        if entry.2.shape.isBound then
          some (Predicate.parameterName rootAlias filter.column, entry.2)
        else none := by
  cases found : filters.filter? entry.1 with
  | none => simp [predicate?, found]
  | some filter =>
      simp only [predicate?, found, Option.bind_some, ColumnFilter.predicate?]
      exact Predicate.resolve_parameter rootAlias filter.column entry.2 filter.exclude

/-- The parameters that a single entry binds. -/
theorem parameters_singleton (filters : ColumnFilters) (rootAlias : String)
    (entry : String × Value) :
    (filters.predicates rootAlias [entry]).filterMap Predicate.parameter =
      if entry.1.isEmpty then []
      else ((filters.predicate? rootAlias entry).bind Predicate.parameter).toList := by
  cases unnamed : entry.1.isEmpty <;>
    cases resolved : filters.predicate? rootAlias entry <;>
    simp [predicates, Handlers.namedEntries, unnamed, resolved]
  cases bound : Predicate.parameter _ <;> simp [bound]

end ColumnFilters

/-- The value that the last of some entries leaves behind, among those that satisfy a
test; a first value stays where there is none. -/
def lastValue (counts : String × Value → Bool) (first : Value) :
    List (String × Value) → Value
  | [] => first
  | entry :: rest => lastValue counts (if counts entry then entry.2 else first) rest

namespace Query

/-- Add predicates one after the other. -/
def addPredicates (query : Query) (predicates : List Predicate) : Query :=
  predicates.foldl addPredicate query

theorem addPredicate_eq (query : Query) (predicate : Predicate) :
    query.addPredicate predicate =
      { query with
        conditions := query.conditions ++ [predicate.condition]
        parameters := query.parameters.insertAll predicate.parameter.toList } := by
  rcases predicate with ⟨condition, parameter⟩
  cases parameter <;> rfl

/-- Predicates add their conditions in order and bind their parameters in order; all else
stays. -/
theorem addPredicates_eq (query : Query) (predicates : List Predicate) :
    query.addPredicates predicates =
      { query with
        conditions := query.conditions ++ predicates.map Predicate.condition
        parameters := query.parameters.insertAll (predicates.filterMap Predicate.parameter) } := by
  induction predicates generalizing query with
  | nil => simp [addPredicates, OrderedMap.insertAll]
  | cons predicate rest ih =>
      have step : query.addPredicates (predicate :: rest) =
          (query.addPredicate predicate).addPredicates rest := rfl
      rw [step, ih, addPredicate_eq]
      cases bound : predicate.parameter <;>
        simp [OrderedMap.insertAll, bound]

@[simp] theorem rootAlias_addPredicates (query : Query) (predicates : List Predicate) :
    (query.addPredicates predicates).rootAlias = query.rootAlias := by
  rw [addPredicates_eq]

theorem addPredicates_append (query : Query) (first second : List Predicate) :
    query.addPredicates (first ++ second) =
      (query.addPredicates first).addPredicates second :=
  List.foldl_append

/-- An entry leaves the parameter of a column as it is, unless it binds that column. -/
theorem get?_addPredicates_singleton (filters : ColumnFilters) (rootAlias column : String)
    (entry : String × Value) {query : Query} {first : Value}
    (start : query.parameters.get? (Predicate.parameterName rootAlias column) = some first) :
    (query.addPredicates (filters.predicates rootAlias [entry])).parameters.get?
        (Predicate.parameterName rootAlias column) =
      some (if filters.binds column entry then entry.2 else first) := by
  rw [addPredicates_eq, filters.parameters_singleton, filters.predicate?_parameter,
    ColumnFilters.binds]
  cases unnamed : entry.1.isEmpty with
  | true => simpa [OrderedMap.insertAll] using start
  | false =>
      cases found : filters.filter? entry.1 with
      | none => simpa [OrderedMap.insertAll] using start
      | some filter =>
          cases kept : entry.2.shape.isBound with
          | false => simpa [OrderedMap.insertAll] using start
          | true =>
              by_cases same : filter.column = column
              · simp [OrderedMap.insertAll, same]
              · have other : Predicate.parameterName rootAlias column ≠
                    Predicate.parameterName rootAlias filter.column :=
                  fun equal => same (Predicate.parameterName_inj.1 equal).symm
                simpa [OrderedMap.insertAll, same, OrderedMap.get?_insert_of_ne _ other] using start

/-- After entries the parameter of a column has the value of the last entry that binds it. -/
theorem get?_addPredicates (filters : ColumnFilters) (rootAlias column : String)
    (entries : List (String × Value)) {query : Query} {first : Value}
    (start : query.parameters.get? (Predicate.parameterName rootAlias column) = some first) :
    (query.addPredicates (filters.predicates rootAlias entries)).parameters.get?
        (Predicate.parameterName rootAlias column) =
      some (lastValue (filters.binds column) first entries) := by
  induction entries generalizing query first with
  | nil => exact start
  | cons entry rest ih =>
      have split : filters.predicates rootAlias (entry :: rest) =
          filters.predicates rootAlias [entry] ++ filters.predicates rootAlias rest :=
        filters.predicates_append rootAlias [entry] rest
      rw [split, addPredicates_append]
      exact ih (get?_addPredicates_singleton filters rootAlias column entry start)

/-- The condition of an entry stands behind those of the entries before it, and its
parameter has the value of the last entry from it on that binds the column. -/
theorem conjunct_of_entry {filters : ColumnFilters} {rootAlias : String}
    {before after : List (String × Value)} {key : String} {value : Value}
    {start filtered : Query} {filter : ColumnFilter} {predicate : Predicate}
    (added : filtered = start.addPredicates
      (filters.predicates rootAlias (before ++ (key, value) :: after)))
    (named : key ≠ "") (found : filters.filter? key = some filter)
    (resolved : filter.predicate? rootAlias value = some predicate)
    (bound : predicate.parameter ≠ none) :
    filtered.conditions[start.conditions.length +
        (filters.predicates rootAlias before).length]? = some predicate.condition ∧
      filtered.parameters.get? (Predicate.parameterName rootAlias filter.column) =
        some (lastValue (filters.binds filter.column) value after) := by
  have entry : filters.predicates rootAlias [(key, value)] = [predicate] := by
    have applied : filters.predicate? rootAlias (key, value) = some predicate := by
      simp [ColumnFilters.predicate?, found, resolved]
    simp [ColumnFilters.predicates, Handlers.namedEntries, named, applied]
  have split : filters.predicates rootAlias (before ++ (key, value) :: after) =
      filters.predicates rootAlias before ++
        (predicate :: filters.predicates rootAlias after) := by
    rw [filters.predicates_append, ← List.singleton_append, filters.predicates_append, entry]
    rfl
  rcases Predicate.parameter_eq resolved bound with ⟨-, parameter⟩
  rw [added, split]
  constructor
  · rw [addPredicates_eq]
    simp
  · have one : predicate :: filters.predicates rootAlias after =
        [predicate] ++ filters.predicates rootAlias after := rfl
    rw [addPredicates_append, one, addPredicates_append]
    refine get?_addPredicates filters rootAlias filter.column after ?_
    simp [addPredicates, addPredicate_eq, parameter, OrderedMap.insertAll]

theorem addCriterion_eq (query : Query) (rootAlias : String) (filter : ColumnFilter)
    (value : Value) :
    query.addCriterion rootAlias filter.column value filter.exclude =
      query.addPredicates (filter.predicate? rootAlias value).toList := by
  simp only [addCriterion, ColumnFilter.predicate?]
  cases Predicate.resolve rootAlias filter.column value filter.exclude <;> rfl

end Query

namespace Handlers

/-- The handlers of filters are exactly those of a table. -/
def FilterBy (handlers : Handlers) (filters : ColumnFilters) : Prop :=
  ∀ name, handlers.criteria.get? name = (filters name).map ColumnFilter.handler

/-- Without handlers the table has no filters. -/
theorem FilterBy.empty : Handlers.empty.FilterBy fun _ => none :=
  fun _ => rfl

/-- One entry: its predicate is added, or there is no handler for its field. -/
theorem result_applyCriterion {handlers : Handlers} {filters : ColumnFilters}
    (described : handlers.FilterBy filters) (entry : String × Value) (query : Query) :
    (handlers.applyCriterion entry query).result =
      if (filters.filter? entry.1).isSome then
        .ok (query.addPredicates (filters.predicate? query.rootAlias entry).toList)
      else .error (.configuration (.missingHandler (criterionName entry.1))) := by
  have stored : handlers.criterion? entry.1 =
      (filters.filter? entry.1).map ColumnFilter.handler := described _
  simp only [applyCriterion, requireCriterion]
  rw [stored]
  cases found : filters.filter? entry.1 with
  | none => rfl
  | some filter =>
      simp only [ColumnFilters.predicate?, found, Option.map_some, Option.isSome_some,
        Option.bind_some, if_true]
      exact congrArg Except.ok (Query.addCriterion_eq query query.rootAlias filter entry.2)

/-- Filters are added exactly if every entry with a field has a handler, and then each adds
its predicate, in order. -/
theorem addCriteria_eq_ok_iff {handlers : Handlers} {filters : ColumnFilters}
    (described : handlers.FilterBy filters) {criteria : Criteria} {before after : Query} :
    (handlers.addCriteria criteria before).result = .ok after ↔
      (∀ entry ∈ namedEntries criteria.entries, (filters.filter? entry.1).isSome) ∧
        after = before.addPredicates
          (filters.predicates before.rootAlias criteria.entries) := by
  have keeps (query : Query) (entry : String × Value)
      (same : query.rootAlias = before.rootAlias) :
      (query.addPredicates
        (filters.predicate? before.rootAlias entry).toList).rootAlias = before.rootAlias := by
    rw [Query.rootAlias_addPredicates, same]
  have step (query : Query) (entry : String × Value) (next : Query)
      (same : query.rootAlias = before.rootAlias) :
      (handlers.applyCriterion entry query).result = .ok next ↔
        (filters.filter? entry.1).isSome ∧
          next = query.addPredicates (filters.predicate? before.rootAlias entry).toList := by
    rw [result_applyCriterion described, same]
    split
    · next found => simp [found, eq_comm]
    · next missing => simp [missing]
  have predicates : before.addPredicates
        (filters.predicates before.rootAlias criteria.entries) =
      (namedEntries criteria.entries).foldl (fun query entry => query.addPredicates
        (filters.predicate? before.rootAlias entry).toList) before := by
    rw [ColumnFilters.predicates, List.filterMap_eq_flatMap_toList]
    exact List.foldl_flatMap
  rw [predicates]
  exact Pass.forEach_report_eq_ok_iff keeps step _ _ rfl after

/-- Filters that all have a handler add their predicates in order. -/
theorem addCriteria_eq_ok {handlers : Handlers} {filters : ColumnFilters}
    (described : handlers.FilterBy filters) {criteria : Criteria} {before after : Query}
    (added : (handlers.addCriteria criteria before).result = .ok after) :
    after = before.addPredicates (filters.predicates before.rootAlias criteria.entries) :=
  ((addCriteria_eq_ok_iff described).1 added).2

end Handlers

end CriteriaQuery
