import CriteriaQuery.OrderedMap
import CriteriaQuery.Query.Fragment
import CriteriaQuery.Value.Basic

/-!
# Queries under construction

A query selects from one root table. It collects fragments part by part in the
order in which they are added, the values of its named parameters, and a limit
and an offset. Joins are grouped by the root they hang under.

The canonical text of a query has its parameters by name. It shows what the query
means and is the same for all values; the limit and the offset, which are values,
are not part of it.
-/

namespace CriteriaQuery

/-- A query under construction. -/
structure Query where
  table : String
  rootAlias : String
  selections : List String
  joins : OrderedMap String (List Join)
  conditions : List String
  orderings : List SortKey
  parameters : OrderedMap String Value
  limit : Option Int64
  offset : Option Int64
deriving Inhabited

namespace Query

/-- The query for everything of a table under an alias. -/
def ofTable (table rootAlias : String) : Query where
  table
  rootAlias
  selections := [rootAlias]
  joins := .empty
  conditions := []
  orderings := []
  parameters := .empty
  limit := none
  offset := none

/-- The joins of all groups, group by group. -/
def allJoins (query : Query) : List Join :=
  query.joins.values.flatten

/-- The aliases a query knows: that of its root and those of its joins. -/
def aliases (query : Query) : List String :=
  query.rootAlias :: query.allJoins.map Join.joinAlias

/-- Append a join to the group of a root. -/
def appendJoin (joins : OrderedMap String (List Join)) (root : String) (join : Join) :
    OrderedMap String (List Join) :=
  joins.insert root ((joins.get? root).getD [] ++ [join])

/-- Append a fragment to its part. -/
def add (query : Query) : Fragment → Query
  | .selection text => { query with selections := query.selections ++ [text] }
  | .join root join => { query with joins := appendJoin query.joins root join }
  | .condition text => { query with conditions := query.conditions ++ [text] }
  | .ordering key => { query with orderings := query.orderings ++ [key] }

/-- Drop all fragments of a part. -/
def reset (query : Query) : QueryPart → Query
  | .selections => { query with selections := [] }
  | .joins => { query with joins := .empty }
  | .conditions => { query with conditions := [] }
  | .orderings => { query with orderings := [] }

/-- Make a fragment the only one of its part. -/
def replace (query : Query) (fragment : Fragment) : Query :=
  (query.reset fragment.part).add fragment

/-- The number of fragments of a part. -/
def count (query : Query) : QueryPart → Nat
  | .selections => query.selections.length
  | .joins => query.allJoins.length
  | .conditions => query.conditions.length
  | .orderings => query.orderings.length

/-- Replace all selections by one. -/
def select (query : Query) (text : String) : Query :=
  query.replace (.selection text)

/-- Append a selection. -/
def addSelection (query : Query) (text : String) : Query :=
  query.add (.selection text)

/-- Append a join under the root alias. -/
def addJoin (query : Query) (join : Join) : Query :=
  query.add (.join query.rootAlias join)

/-- Append a condition; all conditions have to hold. -/
def addCondition (query : Query) (text : String) : Query :=
  query.add (.condition text)

/-- Append a sort key. -/
def addOrdering (query : Query) (expression : String) (direction : SortDirection) : Query :=
  query.add (.ordering { expression, direction })

/-- Bind a named parameter; a value it had is replaced. -/
def setParameter (query : Query) (name : String) (value : Value) : Query :=
  { query with parameters := query.parameters.insert name value }

/-- Set the number of rows wanted, if any. -/
def setLimit (query : Query) (limit : Option Int64) : Query :=
  { query with limit }

/-- Set the number of rows skipped, if any. -/
def setOffset (query : Query) (offset : Option Int64) : Query :=
  { query with offset }

/-- The joins with a space in front of each. -/
def joinsText (joins : List Join) : String :=
  String.join (joins.map fun join => " " ++ join.text)

/-- The conditions; several of them are each put in parentheses. -/
def conditionsText : List String → String
  | [] => ""
  | [single] => " WHERE " ++ single
  | several => " WHERE (" ++ ") AND (".intercalate several ++ ")"

/-- The sort keys. -/
def orderingsText : List SortKey → String
  | [] => ""
  | keys => " ORDER BY " ++ ", ".intercalate (keys.map SortKey.text)

/-- The text of a query with parameters by name. -/
def canonicalText (query : Query) : String :=
  "SELECT " ++ ", ".intercalate query.selections ++ " FROM " ++ query.table ++ " " ++
    query.rootAlias ++ joinsText query.allJoins ++ conditionsText query.conditions ++
    orderingsText query.orderings

end Query

end CriteriaQuery
