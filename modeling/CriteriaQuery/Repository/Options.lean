import CriteriaQuery.Criteria.Json

/-!
# Query options

Everything a query is composed from in one call, and its JSON. Options are an
object in which every part may be missing and unknown parts are passed over, or an
array of the parts in a fixed order. A part may not occur twice. All parts are
written.
-/

namespace CriteriaQuery

/-- What a query is composed from in one call. -/
structure QueryOptions where
  select : List String := []
  criteria : Criteria := .empty
  orderBy : Orders := .empty
  limit : Option Int64 := none
  offset : Option Int64 := none
deriving Inhabited

namespace QueryOptions

/-- The parts of query options, in the order of their array form. -/
inductive Key where
  | select
  | criteria
  | orderBy
  | limit
  | offset
deriving DecidableEq, Repr

namespace Key

/-- All parts, in the order of the array form. -/
def all : List Key :=
  [.select, .criteria, .orderBy, .limit, .offset]

/-- The name of a part. -/
def name : Key → String
  | .select => "select"
  | .criteria => "criteria"
  | .orderBy => "orderBy"
  | .limit => "limit"
  | .offset => "offset"

/-- The part of a name. -/
def ofName? (name : String) : Option Key :=
  all.find? fun key => key.name == name

end Key

/-- The depth that is left for the values of filters, inside the options and the filters. -/
def valueDepth : Nat := Json.maxDepth - 2

/-- Set a part of options from its document. -/
def setPart? (options : QueryOptions) (document : Json.Document) : Key → Option QueryOptions
  | .select => document.texts?.map fun select => { options with select }
  | .criteria => (Criteria.ofDocument? valueDepth document).map fun criteria => { options with criteria }
  | .orderBy => (Orders.ofDocument? document).map fun orderBy => { options with orderBy }
  | .limit => document.optionalInt64?.map fun limit => { options with limit }
  | .offset => document.optionalInt64?.map fun offset => { options with offset }

/-- Set parts of options from fields of which each part has at most one. -/
def setFields? (options : QueryOptions) (seen : List Key) :
    List (List Json.StringPiece × Json.Document) → Option QueryOptions
  | [] => some options
  | (pieces, document) :: rest => do
      let name ← Json.stringText? pieces
      match Key.ofName? name with
      | none => setFields? options seen rest
      | some key =>
          if key ∈ seen then none
          else
            let updated ← options.setPart? document key
            setFields? updated (key :: seen) rest

/-- Set parts of options from items in the order of the parts. -/
def setItems? (options : QueryOptions) : List Key → List Json.Document → Option QueryOptions
  | _, [] => some options
  | [], _ :: _ => none
  | key :: keys, document :: rest => do
      let updated ← options.setPart? document key
      setItems? updated keys rest

/-- The options of a document. -/
def ofDocument? : Json.Document → Option QueryOptions
  | .object fields => setFields? {} [] fields
  | .array items => setItems? {} Key.all items
  | _ => none

/-- The options of a JSON text. -/
def ofJsonText? (text : String) : Option QueryOptions :=
  (Json.Document.ofText? text).bind ofDocument?

/-- An optional number as JSON. -/
def boundJson : Option Int64 → Json
  | none => .null
  | some number => .int number.toInt

/-- Options as JSON, with all of their parts. -/
def toJson (options : QueryOptions) : Json :=
  .object [
    (Key.select.name, .array (options.select.map .string)),
    (Key.criteria.name, options.criteria.toJson),
    (Key.orderBy.name, options.orderBy.toJson),
    (Key.limit.name, boundJson options.limit),
    (Key.offset.name, boundJson options.offset)]

end QueryOptions

end CriteriaQuery
