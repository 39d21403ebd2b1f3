import CriteriaQuery.Bytes
import CriteriaQuery.Database.Pool
import CriteriaQuery.Query.Basic
import CriteriaQuery.Query.Rendering
import CriteriaQuery.Repository.Basic

/-!
# Fetching entities

Composed queries are sent to a client and the rows of its answer are read. A
query that cannot be composed or rendered is not sent; any other is sent exactly
once. A fetch of one entity accepts no row or one, and finds more rows an error
before it reads any of them. A list is read in the order of the answer, up to the
first row that cannot be read.
-/

namespace CriteriaQuery

/-- What a fetch did: the events it reported, the requests it sent, and its result. -/
structure Fetch (α : Type) where
  events : List Event
  sent : List Request
  result : Except QueryError α

namespace Fetch

variable {α β : Type}

/-- A result without events and requests. -/
def ofResult (result : Except QueryError α) : Fetch α where
  events := []
  sent := []
  result

/-- Go on from the result of a fetch; an error ends it. -/
def andThen (fetch : Fetch α) (next : α → Fetch β) : Fetch β :=
  match fetch.result with
  | .error error => { events := fetch.events, sent := fetch.sent, result := .error error }
  | .ok value =>
      let rest := next value
      { events := fetch.events ++ rest.events
        sent := fetch.sent ++ rest.sent
        result := rest.result }

/-- The outcome of composing a query as the start of a fetch. -/
def ofOutcome (outcome : Outcome) : Fetch Query where
  events := outcome.events
  sent := []
  result := outcome.result

end Fetch

/-- No row, or the only one. -/
def oneOrNone {α : Type} : List α → Except QueryError (Option α)
  | [] => .ok none
  | [row] => .ok (some row)
  | rows => .error (.tooManyRows 1 rows.length)

namespace Repository

variable {α : Type}

/-- The request that runs a statement. -/
def request (repository : Repository α) (statement : Statement) : Request where
  tag := repository.entity.table
  sql := statement.sql
  parameters := statement.parameters

/-- The event of sending a statement, its texts cut to the length that is logged. -/
def sendingEvent (repository : Repository α) (query : Query) (statement : Statement) : Event :=
  let limit := repository.settings.maxLoggedBytes
  .statementSent repository.entity.table statement.parameters.length
    (Text.truncate statement.sql limit) (Text.truncate query.canonicalText limit)

/-- Send a query and take the rows of the answer. -/
def execute (repository : Repository α) (client : Client) (query : Query) : Fetch (List Row) :=
  match query.statement with
  | .error error => .ofResult (.error error)
  | .ok statement =>
      { events := [repository.sendingEvent query statement]
        sent := [repository.request statement]
        result := client (repository.request statement) }

/-- Read no row or the only one. -/
def readOne (repository : Repository α) (rows : List Row) : Except QueryError (Option α) :=
  match oneOrNone rows with
  | .error error => .error error
  | .ok none => .ok none
  | .ok (some row) => (repository.decode row).map some

/-- Fetch the entity that the filters select, if there is one. -/
def fetchOne (repository : Repository α) (client : Client) (criteria : Criteria)
    (selects : List String) : Fetch (Option α) :=
  (Fetch.ofOutcome (repository.oneQuery criteria selects)).andThen fun query =>
    (repository.execute client query).andThen fun rows => .ofResult (repository.readOne rows)

/-- Fetch the entity with a primary key, if there is one. -/
def findById (repository : Repository α) (client : Client) (id : Value) : Fetch (Option α) :=
  (Fetch.ofResult (repository.idQuery id)).andThen fun query =>
    (repository.execute client query).andThen fun rows => .ofResult (repository.readOne rows)

/-- Fetch all entities of any query. -/
def fetchAll (repository : Repository α) (client : Client) (query : Query) : Fetch (List α) :=
  (repository.execute client query).andThen fun rows => .ofResult (rows.mapM repository.decode)

/-- Fetch the entities that the filters select, together with the query for them. -/
def fetchMany (repository : Repository α) (client : Client) (criteria : Criteria)
    (selects : List String) (orders : Orders) : Fetch (List α × Query) :=
  (Fetch.ofOutcome (repository.manyQuery criteria selects orders)).andThen fun query =>
    (repository.fetchAll client query).andThen fun entities => .ofResult (.ok (entities, query))

end Repository

end CriteriaQuery
