import CriteriaQuery.Criteria.Dispatch
import CriteriaQuery.Value.Json

/-!
# Criteria as JSON

Filters, orderings and sort directions as JSON. Filters and orderings are objects
whose fields keep the order of the text; of fields with one key the last value
counts, at the place of the first.
-/

namespace CriteriaQuery

namespace Criteria

/-- The filters of an object whose values nest at most to a depth. -/
def ofDocument? (depth : Nat) : Json.Document → Option Criteria
  | .object fields => do
      let entries ← fields.mapM fun field => do
        let key ← Json.stringText? field.1
        let json ← field.2.toJson? depth
        return (key, Value.ofJson json)
      return .ofList entries
  | _ => none

/-- The filters of a JSON text. -/
def ofJsonText? (text : String) : Option Criteria :=
  (Json.Document.ofText? text).bind (ofDocument? (Json.maxDepth - 1))

/-- Filters as JSON, in their order. -/
def toJson (criteria : Criteria) : Json :=
  .object (criteria.entries.map fun entry => (entry.1, entry.2.toJson))

end Criteria

namespace Orders

/-- The orderings of an object of strings. -/
def ofDocument? : Json.Document → Option Orders
  | .object fields => do
      let entries ← fields.mapM fun field => do
        let key ← Json.stringText? field.1
        let direction ← field.2.text?
        return (key, direction)
      return .ofList entries
  | _ => none

/-- The orderings of a JSON text. -/
def ofJsonText? (text : String) : Option Orders :=
  (Json.Document.ofText? text).bind ofDocument?

/-- Orderings as JSON, in their order. -/
def toJson (orders : Orders) : Json :=
  .object (orders.entries.map fun entry => (entry.1, .string entry.2))

end Orders

namespace SortDirection

/-- A sort direction: its keyword, or an object with the keyword as its only key and null
as its value. -/
def ofDocument? : Json.Document → Option SortDirection
  | .string pieces => (Json.stringText? pieces).bind ofKeyword?
  | .object [(pieces, .null)] => (Json.stringText? pieces).bind ofKeyword?
  | _ => none

/-- The sort direction of a JSON text. -/
def ofJsonText? (text : String) : Option SortDirection :=
  (Json.Document.ofText? text).bind ofDocument?

/-- A sort direction as JSON. -/
def toJson (direction : SortDirection) : Json :=
  .string direction.keyword

end SortDirection

end CriteriaQuery
