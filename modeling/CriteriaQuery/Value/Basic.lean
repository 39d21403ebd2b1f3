import CriteriaQuery.Json.Basic
import CriteriaQuery.Text.Quoted
import CriteriaQuery.Time

/-!
# Filter values

A value is what a caller puts on the right-hand side of a filter, and what a
statement binds. Its shape decides the predicate: nothing for null and for the
empty list, membership for other lists, a test for nullness for two sentinel
texts, and equality for every other value.

One kind of value is a universally unique identifier: sixteen bytes, written as
thirty-two lower-case hexadecimal digits in groups of eight, four, four, four and
twelve.
-/

namespace CriteriaQuery

/-- An identifier of a hundred and twenty-eight bits. -/
structure Uuid where
  bits : BitVec 128
deriving DecidableEq, Repr, Inhabited

namespace Uuid

/-- The identifier that thirty-two hexadecimal digits write, hyphens between them left out. -/
def ofText? (text : String) : Option Uuid :=
  let digits := text.toList.filter (· != '-')
  if digits.length = 32 then
    (Text.readHex? digits).map fun number => { bits := BitVec.ofNat 128 number }
  else none

/-- The hyphenated lower-case text. -/
def text (id : Uuid) : String :=
  let digits := Text.hexDigits 32 id.bits.toNat
  let group := fun start length => String.ofList ((digits.drop start).take length)
  "-".intercalate [group 0 8, group 8 4, group 12 4, group 16 4, group 20 12]

end Uuid

/-- A value of a filter or of a bound parameter. -/
inductive Value where
  | null
  | bool (flag : Bool)
  | int (number : Int64)
  | float (number : Binary64)
  | text (content : String)
  | uuid (id : Uuid)
  | timestamp (instant : Timestamp)
  | json (document : Json)
  | list (items : List Value)
deriving Inhabited

namespace Value

/-- The text that asks for a missing value. -/
def nullSentinel : String := "NULL"

/-- The text that asks for a present value. -/
def notNullSentinel : String := "NOT NULL"

/-- Whether a value is null. -/
def isNull : Value → Bool
  | .null => true
  | _ => false

/-- The items of a list. -/
def items? : Value → Option (List Value)
  | .list items => some items
  | _ => none

/-- The characters of a text. -/
def text? : Value → Option String
  | .text content => some content
  | _ => none

/-- A value as items: a list as it is, null as no item, and any other value as one. -/
def toItems : Value → List Value
  | .list items => items
  | .null => []
  | scalar => [scalar]

mutual

/-- Equality of values: the same kind and the same content, with floating-point numbers
compared as numbers. -/
def equal : Value → Value → Bool
  | .null, .null => true
  | .bool left, .bool right => left == right
  | .int left, .int right => left == right
  | .float left, .float right => left.equal right
  | .text left, .text right => left == right
  | .uuid left, .uuid right => left == right
  | .timestamp left, .timestamp right => left == right
  | .json left, .json right => left.equal right
  | .list left, .list right => equalItems left right
  | _, _ => false

/-- Equality of list items, in order. -/
def equalItems : List Value → List Value → Bool
  | [], [] => true
  | left :: lefts, right :: rights => equal left right && equalItems lefts rights
  | _, _ => false

end

instance : BEq Value := ⟨equal⟩

/-- An optional value, null when there is none. -/
def ofOption : Option Value → Value
  | some value => value
  | none => .null

end Value

end CriteriaQuery
