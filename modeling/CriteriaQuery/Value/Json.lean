import CriteriaQuery.Json.Reading
import CriteriaQuery.Json.Writing
import CriteriaQuery.Value.Basic

/-!
# Values and JSON

A value is written as plain JSON without a mark of its kind; identifiers and
timestamps become strings. Reading goes by the shape of the JSON alone: a string
is a text, an array a list, and an object stays JSON.
-/

namespace CriteriaQuery.Value

/-- The value of a JSON integer. One beyond the signed 64-bit range is floating-point. -/
def ofJsonInt (number : Int) : Value :=
  if -0x8000000000000000 ≤ number ∧ number < 0x8000000000000000 then
    .int (Int64.ofInt number)
  else .float (Binary64.ofInt number)

mutual

/-- The value of a JSON value. -/
def ofJson : Json → Value
  | .null => .null
  | .bool flag => .bool flag
  | .int number => ofJsonInt number
  | .float number => .float number
  | .string content => .text content
  | .array items => .list (ofJsonItems items)
  | .object fields => .json (.object fields)

/-- The values of JSON array items. -/
def ofJsonItems : List Json → List Value
  | [] => []
  | item :: rest => ofJson item :: ofJsonItems rest

end

mutual

/-- A value as JSON. An infinity or a NaN, which JSON does not have, becomes null. -/
def toJson : Value → Json
  | .null => .null
  | .bool flag => .bool flag
  | .int number => .int number.toInt
  | .float number => if number.isFinite then .float number else .null
  | .text content => .string content
  | .uuid id => .string id.text
  | .timestamp instant => .string instant.text
  | .json document => document
  | .list items => .array (toJsonItems items)

/-- List items as JSON. -/
def toJsonItems : List Value → List Json
  | [] => []
  | item :: rest => toJson item :: toJsonItems rest

end

/-- The JSON text of a value. -/
def jsonText (value : Value) : String :=
  value.toJson.compact

/-- The value of a JSON text. -/
def ofJsonText? (text : String) : Option Value :=
  (Json.ofText? text).map ofJson

end CriteriaQuery.Value
