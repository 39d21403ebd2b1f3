import CriteriaQuery.Criteria.Predicate

/-!
# Shapes of values

A filter looks at its value only to tell five kinds apart: null, a list of some
length, the two sentinel texts, and everything else.  The kind is the shape of the
value; the value itself matters to nothing but the parameter it is bound to.
-/

namespace CriteriaQuery

namespace Value

/-- What a filter can see of a value. -/
inductive Shape where
  | null
  | items (count : Nat)
  | nullSentinel
  | notNullSentinel
  | scalar
deriving DecidableEq, Repr

/-- The shape of a value. -/
def shape : Value → Shape
  | .null => .null
  | .list items => .items items.length
  | .text content =>
      if content = nullSentinel then .nullSentinel
      else if content = notNullSentinel then .notNullSentinel
      else .scalar
  | _ => .scalar

/-- Whether a filter binds a value of a shape to a parameter. -/
def Shape.isBound : Shape → Bool
  | .items count => count != 0
  | .scalar => true
  | _ => false

/-- The number of items that a value of a shape stands for in a list of exclusions. -/
def Shape.itemCount : Shape → Nat
  | .null => 0
  | .items count => count
  | _ => 1

theorem length_toItems (value : Value) : value.toItems.length = value.shape.itemCount := by
  cases value with
  | null => rfl
  | list items => rfl
  | text content =>
      simp only [toItems, shape]
      split
      · rfl
      · split <;> rfl
  | bool | int | float | uuid | timestamp | json => rfl

end Value

namespace Predicate

/-- The predicate of a filter, case by case on the shape of its value. -/
theorem resolve_shape (rootAlias column : String) (value : Value) (exclude : Bool) :
    resolve rootAlias column value exclude =
      match value.shape with
      | .null => none
      | .items 0 => none
      | .items (_ + 1) => some (membership rootAlias column value exclude)
      | .nullSentinel => some (nullness rootAlias column "IS NULL")
      | .notNullSentinel => some (nullness rootAlias column "IS NOT NULL")
      | .scalar => some (equality rootAlias column value exclude) := by
  cases value with
  | null => rfl
  | list items =>
      cases items with
      | nil => rfl
      | cons first rest => rfl
  | text content =>
      simp only [resolve, Value.shape]
      split
      · rfl
      · split <;> rfl
  | bool | int | float | uuid | timestamp | json => rfl

/-- A filter binds the value it is given, under the name of its column, or nothing. -/
theorem resolve_parameter (rootAlias column : String) (value : Value) (exclude : Bool) :
    (resolve rootAlias column value exclude).bind Predicate.parameter =
      if value.shape.isBound then some (parameterName rootAlias column, value) else none := by
  rw [resolve_shape]
  rcases value.shape with _ | count | _ | _ | _
  · rfl
  · cases count <;> rfl
  · rfl
  · rfl
  · rfl

/-- A predicate with a parameter binds the value of its filter. -/
theorem parameter_eq {rootAlias column : String} {value : Value} {exclude : Bool}
    {predicate : Predicate} (resolved : resolve rootAlias column value exclude = some predicate)
    (bound : predicate.parameter ≠ none) :
    value.shape.isBound = true ∧
      predicate.parameter = some (parameterName rootAlias column, value) := by
  have given := resolve_parameter rootAlias column value exclude
  rw [resolved, Option.bind_some] at given
  rw [given] at bound ⊢
  split at bound
  · next isBound => exact ⟨isBound, if_pos isBound⟩
  · exact absurd rfl bound

/-- Parameters of different columns have different names under one alias. -/
theorem parameterName_inj {rootAlias left right : String} :
    parameterName rootAlias left = parameterName rootAlias right ↔ left = right := by
  constructor
  · intro same
    have chars := congrArg String.toList same
    simp only [parameterName, String.toList_append] at chars
    exact String.toList_inj.1 (List.append_cancel_left chars)
  · intro same
    rw [same]

end Predicate

end CriteriaQuery
