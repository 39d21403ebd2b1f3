import CriteriaQuery.Text.Quoted

/-!
# Errors

What can go wrong when a query is composed, sent or read. Mistakes in the setup of
a query and invalid input are causes of their own; errors reported from elsewhere
carry the text they came with. All wording is here.
-/

namespace CriteriaQuery

/-- A mistake in the setup of a query. -/
inductive Misconfiguration where
  | missingHandler (name : String)
  | unknownDirection (text : String)
  | unreadableJoin (text : String)
  | unboundParameter (name : String)
  | noPrimaryKey (table : String)
  | missingVariable (name : String)
  | other (message : String)
deriving DecidableEq, Repr

/-- Input that a query cannot hold. -/
inductive InvalidInput where
  | identifier (text : String)
  | lookupNotScalar (table primaryKey : String)
  | lookupSentinel (table primaryKey sentinel : String)
  | other (message : String)
deriving DecidableEq, Repr

/-- An error of composing, sending or reading a query. -/
inductive QueryError where
  | configuration (cause : Misconfiguration)
  | validation (cause : InvalidInput)
  | tooManyRows (expected got : Nat)
  | connection (message : String)
  | query (message : String)
  | uniqueViolation (message : String)
  | foreignKeyViolation (message : String)
  | decode (column message : String)
  | pool (message : String)
deriving DecidableEq, Repr

namespace Misconfiguration

/-- The text of a mistake in the setup. -/
def message : Misconfiguration → String
  | .missingHandler name => "no handler named " ++ name
  | .unknownDirection text =>
      text ++ " is not a valid value for order by \"direction\" parameter"
  | .unreadableJoin text => "unable to parse join fragment \"" ++ text ++ "\""
  | .unboundParameter name => "parameter ':" ++ name ++ "' is referenced but was never bound"
  | .noPrimaryKey table => table ++ " has no primary key"
  | .missingVariable name => name ++ " is not set"
  | .other message => message

end Misconfiguration

namespace InvalidInput

/-- The text of invalid input. -/
def message : InvalidInput → String
  | .identifier text => "Sql::push_ident: invalid identifier '" ++ text ++ "'"
  | .lookupNotScalar table primaryKey => table ++ "." ++ primaryKey ++ " lookup needs a scalar id"
  | .lookupSentinel table primaryKey sentinel =>
      table ++ "." ++ primaryKey ++ " lookup cannot use the " ++ Text.quote sentinel ++ " sentinel"
  | .other message => message

end InvalidInput

namespace QueryError

/-- The text of an error. -/
def message : QueryError → String
  | .configuration cause => "Configuration error: " ++ cause.message
  | .validation cause => "Validation error: " ++ cause.message
  | .tooManyRows expected got =>
      "Too many rows: expected at most " ++ Nat.repr expected ++ ", got " ++ Nat.repr got
  | .connection message => "Connection error: " ++ message
  | .query message => "Query error: " ++ message
  | .uniqueViolation message => "Unique constraint violation: " ++ message
  | .foreignKeyViolation message => "Foreign key violation: " ++ message
  | .decode column message => "Decode error on column '" ++ column ++ "': " ++ message
  | .pool message => "Pool error: " ++ message

/-- Whether an error is a mistake in the setup. -/
def isConfiguration : QueryError → Bool
  | .configuration _ => true
  | _ => false

/-- Whether an error is about the number of rows. -/
def isTooManyRows : QueryError → Bool
  | .tooManyRows _ _ => true
  | _ => false

end QueryError

end CriteriaQuery
