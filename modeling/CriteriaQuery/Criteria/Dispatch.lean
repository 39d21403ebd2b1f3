import CriteriaQuery.Criteria.Handlers

/-!
# Applying criteria

Each entry of the filters, orderings and selections of a request goes to the
handler of its field. Entries with an empty field are passed over. A filter or an
ordering without a handler is a mistake in the setup; a selection without one is
selected as it is written. The first error ends the pass, and what was added
before it stays.

A row is deleted by its status. Unless a request filters on the status itself,
deleted rows are excluded: the deleted status joins whatever statuses the request
excludes already. Having the status key is what counts, so a request opts out by
mentioning it, even with null.
-/

namespace CriteriaQuery

/-- Filters: values by field, in the order in which they apply. -/
abbrev Criteria := OrderedMap String Value

/-- Orderings: directions by field, in the order in which they apply. -/
abbrev Orders := OrderedMap String String

namespace Handlers

/-- Apply one filter. -/
def applyCriterion (handlers : Handlers) (entry : String × Value) : Pass :=
  match handlers.requireCriterion entry.1 with
  | .ok handler => handler entry.2
  | .error error => .fail error

/-- Apply one ordering. -/
def applyOrder (handlers : Handlers) (entry : String × String) : Pass :=
  match handlers.requireOrder entry.1 with
  | .ok handler => handler entry.2
  | .error error => .fail error

/-- Apply one selection. -/
def applySelect (handlers : Handlers) (field : String) : Pass :=
  match handlers.select? field with
  | some handler => handler
  | none => .update fun query => query.addSelection field

/-- The entries whose field is not empty. -/
def namedEntries {β : Type} (entries : List (String × β)) : List (String × β) :=
  entries.filter fun entry => !entry.1.isEmpty

/-- Apply filters in order. -/
def addCriteria (handlers : Handlers) (criteria : Criteria) : Pass :=
  let entries := namedEntries criteria.entries
  (Pass.forEach handlers.applyCriterion entries).andThen
    (.report fun query => .criteriaApplied entries.length query.conditions.length)

/-- Apply orderings in order. -/
def addOrders (handlers : Handlers) (orders : Orders) : Pass :=
  (Pass.forEach handlers.applyOrder (namedEntries orders.entries)).andThen
    (.report fun query => .orderingsApplied query.orderings.length)

/-- Apply selections in order. -/
def addSelects (handlers : Handlers) (selects : List String) : Pass :=
  (Pass.forEach handlers.applySelect (selects.filter fun field => !field.isEmpty)).andThen
    (.report fun query => .selectionsApplied query.selections.length)

end Handlers

namespace Settings

/-- The statuses a request excludes together with the deleted one. -/
def excludedStatuses (settings : Settings) (criteria : Criteria) : Value :=
  .list (((criteria.get? settings.excludedStatusKey).getD .null).toItems ++
    [settings.deletedStatus])

/-- Exclude deleted rows of a table that has a status, unless the request filters on it. -/
def excludeDeleted (settings : Settings) (hasStatus : Bool) (criteria : Criteria) : Criteria :=
  if criteria.contains settings.statusField || !hasStatus then criteria
  else criteria.insert settings.excludedStatusKey (settings.excludedStatuses criteria)

end Settings

end CriteriaQuery
