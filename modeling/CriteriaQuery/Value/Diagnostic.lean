import CriteriaQuery.Text.Quoted
import CriteriaQuery.Value.Json

/-!
# Diagnostic text of values

The text by which a value is shown to a developer: its kind and its content in
parentheses, with texts quoted.
-/

namespace CriteriaQuery

namespace Json

mutual

/-- The diagnostic text of a JSON value. -/
def diagnostic : Json → String
  | .null => "Null"
  | .bool flag => "Bool(" ++ toString flag ++ ")"
  | .int number => "Number(" ++ intText number ++ ")"
  | .float number => "Number(" ++ floatText number ++ ")"
  | .string text => "String(" ++ Text.quote text ++ ")"
  | .array items => "Array [" ++ ", ".intercalate (diagnosticItems items) ++ "]"
  | .object fields =>
      "Object \x7b" ++ ", ".intercalate (diagnosticFields fields) ++ "\x7d"

/-- The diagnostic texts of array items. -/
def diagnosticItems : List Json → List String
  | [] => []
  | item :: rest => diagnostic item :: diagnosticItems rest

/-- The diagnostic texts of object fields. -/
def diagnosticFields : List (String × Json) → List String
  | [] => []
  | (key, value) :: rest => (Text.quote key ++ ": " ++ diagnostic value) :: diagnosticFields rest

end

end Json

namespace Value

/-- Numbers are positional from `0.0001` to below `10 ^ 16`, an exponent shows only a
minus sign, and of two equally near decimals the greater one is written. -/
def numberLayout : NumberLayout where
  leastPositional := -4
  greatestPositional := 15
  plusSign := false
  tie := .upward

/-- The diagnostic text of a floating-point number. -/
def floatDiagnostic (number : Binary64) : String :=
  if number.isNaN then "NaN"
  else if number.isFinite then numberLayout.finiteText number
  else if number.isNegative then "-inf"
  else "inf"

mutual

/-- The diagnostic text of a value. -/
def diagnostic : Value → String
  | .null => "Null"
  | .bool flag => "Bool(" ++ toString flag ++ ")"
  | .int number => "Int(" ++ Json.intText number.toInt ++ ")"
  | .float number => "Float(" ++ floatDiagnostic number ++ ")"
  | .text content => "Text(" ++ Text.quote content ++ ")"
  | .uuid id => "Uuid(" ++ id.text ++ ")"
  | .timestamp instant => "Timestamp(" ++ instant.text ++ ")"
  | .json document => "Json(" ++ document.diagnostic ++ ")"
  | .list items => "List([" ++ ", ".intercalate (diagnosticItems items) ++ "])"

/-- The diagnostic texts of list items. -/
def diagnosticItems : List Value → List String
  | [] => []
  | item :: rest => diagnostic item :: diagnosticItems rest

end

end Value

end CriteriaQuery
