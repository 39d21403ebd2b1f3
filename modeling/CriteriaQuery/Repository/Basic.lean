import CriteriaQuery.Catalog
import CriteriaQuery.Criteria.Dispatch
import CriteriaQuery.Database.Row
import CriteriaQuery.Query.Distinct
import CriteriaQuery.Repository.Options

/-!
# Repositories

A repository composes the queries of one entity from filters, selections and
orderings. Every query for entities excludes deleted rows by default and ends
without duplicates; only the look-up by primary key goes straight to the row.

Composing never talks to the database. It yields a query or an error, and the
events reported on the way.
-/

namespace CriteriaQuery

/-- The queries of one entity: its table, its handlers, which columns tables declare,
the settings, and how a row is read. -/
structure Repository (α : Type) where
  entity : Entity
  handlers : Handlers
  declares : String → String → Bool
  settings : Settings
  decode : Row → Except QueryError α

namespace Repository

variable {α : Type}

/-- A repository; the lifecycle handlers are added if the entity has a status. -/
def create (entity : Entity) (handlers : Handlers) (declares : String → String → Bool)
    (settings : Settings) (decode : Row → Except QueryError α) : Repository α where
  entity
  handlers :=
    if declares entity.table settings.statusField then handlers.withLifecycle settings
    else handlers
  declares
  settings
  decode

/-- Whether the entity has a status. -/
def hasStatus (repository : Repository α) : Bool :=
  repository.declares repository.entity.table repository.settings.statusField

/-- The query for everything of the entity. -/
def freshQuery (repository : Repository α) : Query :=
  .ofTable repository.entity.table repository.entity.rootAlias

/-- The filters of a request with those that hide deleted rows. -/
def augment (repository : Repository α) (criteria : Criteria) : Criteria :=
  repository.settings.excludeDeleted repository.hasStatus criteria

/-- Compose the query for one entity. -/
def oneQuery (repository : Repository α) (criteria : Criteria) (selects : List String) :
    Outcome :=
  let handlers := repository.handlers
  ((handlers.addCriteria (repository.augment criteria)).andThen
    ((handlers.addSelects selects).andThen Query.dropDuplicates)) repository.freshQuery

/-- Compose the query for a list of entities. -/
def manyQuery (repository : Repository α) (criteria : Criteria) (selects : List String)
    (orders : Orders) : Outcome :=
  let handlers := repository.handlers
  ((handlers.addCriteria (repository.augment criteria)).andThen
    ((handlers.addOrders orders).andThen
      ((handlers.addSelects selects).andThen Query.dropDuplicates))) repository.freshQuery

/-- Compose a query from options; selections come first here. -/
def buildQuery (repository : Repository α) (options : QueryOptions) : Outcome :=
  let handlers := repository.handlers
  let paginate : Pass := .update fun query =>
    (query.setLimit options.limit).setOffset options.offset
  ((handlers.addSelects options.select).andThen
    ((handlers.addCriteria (repository.augment options.criteria)).andThen
      ((handlers.addOrders options.orderBy).andThen
        (paginate.andThen Query.dropDuplicates)))) repository.freshQuery

/-- The look-up of a row by its primary key. -/
def lookup (repository : Repository α) (primaryKey : String) (id : Value) : Query :=
  let rootAlias := repository.entity.rootAlias
  let name := Predicate.parameterName rootAlias primaryKey
  (repository.freshQuery.addCondition (rootAlias ++ "." ++ primaryKey ++ " = :" ++ name)).setParameter
    name id

/-- Compose the look-up by primary key. Identifiers that would not compare as equal to a
single value are refused: null, lists and the two sentinel texts. -/
def idQuery (repository : Repository α) (id : Value) : Except QueryError Query :=
  let table := repository.entity.table
  match repository.entity.primaryKey with
  | none => .error (.configuration (.noPrimaryKey table))
  | some primaryKey =>
      match id with
      | .null => .error (.validation (.lookupNotScalar table primaryKey))
      | .list _ => .error (.validation (.lookupNotScalar table primaryKey))
      | .text content =>
          if content = Value.nullSentinel ∨ content = Value.notNullSentinel then
            .error (.validation (.lookupSentinel table primaryKey content))
          else .ok (repository.lookup primaryKey (.text content))
      | scalar => .ok (repository.lookup primaryKey scalar)

/-- The diagnostic text of a repository. -/
def diagnostic (repository : Repository α) : String :=
  "Repository \x7b table: " ++ Text.quote repository.entity.table ++
    ", alias: " ++ Text.quote repository.entity.rootAlias ++
    ", handlers: " ++ repository.handlers.diagnostic ++
    ", config: " ++ repository.settings.diagnostic ++ " \x7d"

end Repository

end CriteriaQuery
