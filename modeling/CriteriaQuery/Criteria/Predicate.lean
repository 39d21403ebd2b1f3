import CriteriaQuery.Query.Basic

/-!
# Predicates

The condition that a filter on a column turns into. The shape of the value
decides: null and the empty list ask for nothing, other lists for membership, two
sentinel texts for the absence or presence of a value, and every other value for
equality. Zero, false and the empty text are values like any other.

The value itself is bound to a parameter named after the alias and the column.
-/

namespace CriteriaQuery

/-- A condition with the parameter it refers to, if it refers to one. -/
structure Predicate where
  condition : String
  parameter : Option (String × Value)
deriving Inhabited

namespace Predicate

/-- The name of the parameter of a column. -/
def parameterName (rootAlias column : String) : String :=
  rootAlias ++ "_" ++ column

/-- Membership in a list, or its opposite. -/
def membership (rootAlias column : String) (value : Value) (exclude : Bool) : Predicate where
  condition :=
    rootAlias ++ "." ++ column ++ (if exclude then " NOT IN " else " IN ") ++
      "(:" ++ parameterName rootAlias column ++ ")"
  parameter := some (parameterName rootAlias column, value)

/-- Equality with a value, or its opposite. -/
def equality (rootAlias column : String) (value : Value) (exclude : Bool) : Predicate where
  condition :=
    rootAlias ++ "." ++ column ++ (if exclude then " != " else " = ") ++
      ":" ++ parameterName rootAlias column
  parameter := some (parameterName rootAlias column, value)

/-- A test for the absence or presence of a value. -/
def nullness (rootAlias column test : String) : Predicate where
  condition := rootAlias ++ "." ++ column ++ " " ++ test
  parameter := none

/-- The predicate of a filter on a column. -/
def resolve (rootAlias column : String) (value : Value) (exclude : Bool) : Option Predicate :=
  match value with
  | .null => none
  | .list [] => none
  | .list (first :: rest) =>
      some (membership rootAlias column (.list (first :: rest)) exclude)
  | .text content =>
      if content = Value.nullSentinel then some (nullness rootAlias column "IS NULL")
      else if content = Value.notNullSentinel then
        some (nullness rootAlias column "IS NOT NULL")
      else some (equality rootAlias column (.text content) exclude)
  | scalar => some (equality rootAlias column scalar exclude)

end Predicate

namespace Query

/-- Add the condition of a predicate and bind its parameter. -/
def addPredicate (query : Query) (predicate : Predicate) : Query :=
  let conditioned := query.addCondition predicate.condition
  match predicate.parameter with
  | some (name, value) => conditioned.setParameter name value
  | none => conditioned

/-- Add a filter on a column, if it asks for anything. -/
def addCriterion (query : Query) (rootAlias column : String) (value : Value) (exclude : Bool) :
    Query :=
  match Predicate.resolve rootAlias column value exclude with
  | some predicate => query.addPredicate predicate
  | none => query

end Query

end CriteriaQuery
