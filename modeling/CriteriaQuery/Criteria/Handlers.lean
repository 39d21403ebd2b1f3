import CriteriaQuery.Criteria.Predicate
import CriteriaQuery.Query.Pass
import CriteriaQuery.Text.Quoted
import CriteriaQuery.Text.Uppercase
import CriteriaQuery.Value.Diagnostic

/-!
# Settings and handlers

Settings say how a repository recognises deleted rows and how much of a statement it logs.

A handler knows how one field of a query is filtered, ordered or selected. It is
registered and found under a name made of a prefix and the field with its first
letter in uppercase, so fields that differ only in that letter share a handler.

Registering a handler replaces one with the same name, except for the lifecycle
handlers, which step back for handlers that are already there.
-/

namespace CriteriaQuery

/-- The settings of a repository: the field that holds the status of a row, the key of
the filter that excludes statuses, the status of a deleted row, and the greatest length
of a logged statement in bytes. -/
structure Settings where
  statusField : String := "status"
  excludedStatusKey : String := "excludedStatus"
  deletedStatus : Value := .text "deleted"
  maxLoggedBytes : Nat := 1024
deriving Inhabited

namespace Settings

/-- The diagnostic text of settings. -/
def diagnostic (settings : Settings) : String :=
  "RepositoryConfig \x7b status_field: " ++ Text.quote settings.statusField ++
    ", excluded_status_key: " ++ Text.quote settings.excludedStatusKey ++
    ", deleted_status: " ++ settings.deletedStatus.diagnostic ++
    ", max_sql_log_length: " ++ Nat.repr settings.maxLoggedBytes ++ " \x7d"

end Settings

/-- Applies the value of a filter. -/
abbrev CriterionHandler := Value → Pass

/-- Applies the direction of an ordering, given as text. -/
abbrev OrderHandler := String → Pass

/-- Applies a selection. -/
abbrev SelectHandler := Pass

/-- The filter on a column of the root table, or its opposite. -/
def CriterionHandler.ofColumn (column : String) (exclude : Bool) : CriterionHandler :=
  fun value => .update fun query => query.addCriterion query.rootAlias column value exclude

/-- The ordering by a column of the root table. The direction is checked before anything
is added. -/
def OrderHandler.ofColumn (column : String) : OrderHandler := fun direction =>
  match SortDirection.ofKeyword direction with
  | .ok parsed => .update fun query => query.addOrdering (query.rootAlias ++ "." ++ column) parsed
  | .error error => .fail error

/-- Handlers by name. -/
structure Handlers where
  criteria : OrderedMap String CriterionHandler
  orders : OrderedMap String OrderHandler
  selects : OrderedMap String SelectHandler
deriving Inhabited

namespace Handlers

/-- No handlers. -/
def empty : Handlers where
  criteria := .empty
  orders := .empty
  selects := .empty

/-- The name of a handler: a prefix, and the field with its first letter in uppercase. -/
def nameOf (start field : String) : String :=
  start ++ Text.capitalize field

/-- The name of the handler that filters by a field. -/
def criterionName (field : String) : String :=
  nameOf "addCriterion" field

/-- The name of the handler that orders by a field. -/
def orderName (field : String) : String :=
  nameOf "addOrderBy" field

/-- The name of the handler of a selection. -/
def selectName (field : String) : String :=
  nameOf "addSelect" field

/-- Register a filter. -/
def criterion (handlers : Handlers) (field : String) (handler : CriterionHandler) : Handlers :=
  { handlers with criteria := handlers.criteria.insert (criterionName field) handler }

/-- Register an ordering. -/
def order (handlers : Handlers) (field : String) (handler : OrderHandler) : Handlers :=
  { handlers with orders := handlers.orders.insert (orderName field) handler }

/-- Register a selection. -/
def select (handlers : Handlers) (field : String) (handler : SelectHandler) : Handlers :=
  { handlers with selects := handlers.selects.insert (selectName field) handler }

/-- Register the filter on the column that a field is named after. -/
def fieldCriterion (handlers : Handlers) (field : String) : Handlers :=
  handlers.criterion field (.ofColumn field false)

/-- Register, under a name of its own, the filter that excludes values of a column. -/
def excludedFieldCriterion (handlers : Handlers) (field column : String) : Handlers :=
  handlers.criterion field (.ofColumn column true)

/-- Register the ordering by the column that a field is named after. -/
def fieldOrder (handlers : Handlers) (field : String) : Handlers :=
  handlers.order field (.ofColumn field)

/-- The handler that filters by a field. -/
def criterion? (handlers : Handlers) (field : String) : Option CriterionHandler :=
  handlers.criteria.get? (criterionName field)

/-- The handler that orders by a field. -/
def order? (handlers : Handlers) (field : String) : Option OrderHandler :=
  handlers.orders.get? (orderName field)

/-- The handler of a selection. -/
def select? (handlers : Handlers) (field : String) : Option SelectHandler :=
  handlers.selects.get? (selectName field)

/-- Whether a field can be filtered by. -/
def hasCriterion (handlers : Handlers) (field : String) : Bool :=
  (handlers.criterion? field).isSome

/-- Whether a field can be ordered by. -/
def hasOrder (handlers : Handlers) (field : String) : Bool :=
  (handlers.order? field).isSome

/-- Whether a selection has a handler. -/
def hasSelect (handlers : Handlers) (field : String) : Bool :=
  (handlers.select? field).isSome

/-- The handler that filters by a field; a missing one is a mistake in the setup. -/
def requireCriterion (handlers : Handlers) (field : String) : Except QueryError CriterionHandler :=
  match handlers.criterion? field with
  | some handler => .ok handler
  | none => .error (.configuration (.missingHandler (criterionName field)))

/-- The handler that orders by a field; a missing one is a mistake in the setup. -/
def requireOrder (handlers : Handlers) (field : String) : Except QueryError OrderHandler :=
  match handlers.order? field with
  | some handler => .ok handler
  | none => .error (.configuration (.missingHandler (orderName field)))

/-- Add the handlers of the status field: a filter, an excluding filter and an ordering.
Each is left out if there is already a handler of its name. -/
def withLifecycle (handlers : Handlers) (settings : Settings) : Handlers :=
  let including :=
    if handlers.hasCriterion settings.statusField then handlers
    else handlers.fieldCriterion settings.statusField
  let excluding :=
    if including.hasCriterion settings.excludedStatusKey then including
    else including.excludedFieldCriterion settings.excludedStatusKey settings.statusField
  if excluding.hasOrder settings.statusField then excluding
  else excluding.fieldOrder settings.statusField

/-- Names in order. -/
def sortedNames (names : List String) : List String :=
  names.mergeSort fun left right => decide (left ≤ right)

/-- The diagnostic text of handlers: their names in order. -/
def diagnostic (handlers : Handlers) : String :=
  "HandlerRegistry \x7b criteria: " ++ Text.quoteAll (sortedNames handlers.criteria.keys) ++
    ", orders: " ++ Text.quoteAll (sortedNames handlers.orders.keys) ++
    ", selects: " ++ Text.quoteAll (sortedNames handlers.selects.keys) ++ " \x7d"

end Handlers

end CriteriaQuery
