import CriteriaQuery.Numeric.Binary64

/-!
# JSON values

A JSON number is an integer or a floating-point number; the two never compare as
equal. An object lists its fields. Objects that come from reading are sorted by
key and hold each key once; the writer keeps whatever order it is given.
-/

namespace CriteriaQuery

/-- A JSON value. -/
inductive Json where
  | null
  | bool (flag : Bool)
  | int (number : Int)
  | float (number : Binary64)
  | string (text : String)
  | array (items : List Json)
  | object (fields : List (String × Json))
deriving Repr, Inhabited

namespace Json

mutual

/-- Equality of JSON values, with floating-point numbers compared as numbers. -/
def equal : Json → Json → Bool
  | .null, .null => true
  | .bool left, .bool right => left == right
  | .int left, .int right => left == right
  | .float left, .float right => left.equal right
  | .string left, .string right => left == right
  | .array left, .array right => equalItems left right
  | .object left, .object right => equalFields left right
  | _, _ => false

/-- Equality of array items, in order. -/
def equalItems : List Json → List Json → Bool
  | [], [] => true
  | left :: lefts, right :: rights => equal left right && equalItems lefts rights
  | _, _ => false

/-- Equality of object fields, in order. -/
def equalFields : List (String × Json) → List (String × Json) → Bool
  | [], [] => true
  | (leftKey, left) :: lefts, (rightKey, right) :: rights =>
      leftKey == rightKey && equal left right && equalFields lefts rights
  | _, _ => false

end

/-- Put a field where its key belongs in fields that are sorted by key; a field with
that key is replaced. -/
def putField (key : String) (value : Json) : List (String × Json) → List (String × Json)
  | [] => [(key, value)]
  | (other, old) :: rest =>
      if key = other then (key, value) :: rest
      else if key < other then (key, value) :: (other, old) :: rest
      else (other, old) :: putField key value rest

/-- The sorted object of fields in any order; of fields with one key the last counts. -/
def ofFields (fields : List (String × Json)) : Json :=
  .object (fields.foldl (fun sorted field => putField field.1 field.2 sorted) [])

/-- The value of a field. -/
def field? (key : String) : Json → Option Json
  | .object fields => fields.lookup key
  | _ => none

end Json

end CriteriaQuery
