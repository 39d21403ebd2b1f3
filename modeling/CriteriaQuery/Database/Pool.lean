import CriteriaQuery.Database.ConnectionString
import CriteriaQuery.Database.Row

/-!
# Clients and connection pools

A client answers requests with rows or with an error. It is whatever stands
between a repository and the database: a connection, a transaction or a pooled
connection of either.

A pool holds a bounded number of connections to the database of a connection
string. Making one checks the string and connects to nothing.
-/

namespace CriteriaQuery

/-- A statement to be run, with the tag it is monitored under. -/
structure Request where
  tag : String
  sql : String
  parameters : List Value
deriving Inhabited

/-- Answers requests. -/
abbrev Client := Request → Except QueryError (List Row)

/-- A failure that the database reports: its state code, its text, and the constraint
that was violated, if there was one. -/
structure DatabaseFailure where
  code : String
  message : String
  constraint : Option String
deriving DecidableEq, Repr

/-- The error of a failure: violations of uniqueness and of foreign keys are told apart
by their codes and name the constraint. -/
def DatabaseFailure.toError (failure : DatabaseFailure) : QueryError :=
  let described := failure.constraint.getD "unknown" ++ ": " ++ failure.message
  if failure.code = "23505" then .uniqueViolation described
  else if failure.code = "23503" then .foreignKeyViolation described
  else .query "db error"

/-- A pool of connections. -/
structure Pool where
  connection : String
  maxSize : Nat
  isClosed : Bool
deriving DecidableEq, Repr

namespace Pool

/-- The number of connections of a pool that is not told otherwise. -/
def defaultSize : Nat := 16

/-- The variable of the environment that holds the connection string. -/
def variableName : String := "DATABASE_URL"

/-- A pool for a connection string. -/
def create (connection : String) (maxSize : Nat) : Except QueryError Pool :=
  if ConnectionString.isValid connection then .ok { connection, maxSize, isClosed := false }
  else .error (.connection "invalid connection string")

/-- A pool for the connection string that the environment holds. -/
def ofEnvironment (setting : Option String) : Except QueryError Pool :=
  match setting with
  | some connection => create connection defaultSize
  | none => .error (.configuration (.missingVariable variableName))

/-- Take a connection from a pool, which a closed pool does not give. -/
def acquire (pool : Pool) (client : Client) : Except QueryError Client :=
  if pool.isClosed then .error (.pool "Pool has been closed") else .ok client

end Pool

end CriteriaQuery
