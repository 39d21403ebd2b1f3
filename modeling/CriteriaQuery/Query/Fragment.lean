import CriteriaQuery.QueryError

/-!
# Query fragments

The pieces a query is composed of: selections, joins, conditions and sort keys,
each with its text. A fragment belongs to one part of the query, and the text of
a join is what its alias is later read back from.
-/

namespace CriteriaQuery

/-- The direction of a sort key. -/
inductive SortDirection where
  | ascending
  | descending
deriving DecidableEq, Repr, Inhabited

namespace SortDirection

/-- The keyword of a direction. -/
def keyword : SortDirection → String
  | .ascending => "ASC"
  | .descending => "DESC"

/-- The direction of a keyword, which must be spelled exactly. -/
def ofKeyword? (text : String) : Option SortDirection :=
  if text = "ASC" then some .ascending
  else if text = "DESC" then some .descending
  else none

/-- The direction of a keyword; any other text is a mistake in the setup. -/
def ofKeyword (text : String) : Except QueryError SortDirection :=
  match ofKeyword? text with
  | some direction => .ok direction
  | none => .error (.configuration (.unknownDirection text))

end SortDirection

/-- The kind of a join. -/
inductive JoinKind where
  | inner
  | left
  | right
deriving DecidableEq, Repr

/-- The keyword of a kind of join. -/
def JoinKind.keyword : JoinKind → String
  | .inner => "INNER"
  | .left => "LEFT"
  | .right => "RIGHT"

/-- A join of a table under an alias. -/
structure Join where
  kind : JoinKind
  target : String
  joinAlias : String
  condition : Option String
deriving DecidableEq, Repr

/-- The text of a join. -/
def Join.text (join : Join) : String :=
  join.kind.keyword ++ " JOIN " ++ join.target ++ " " ++ join.joinAlias ++
    (match join.condition with
    | some condition => " ON " ++ condition
    | none => "")

/-- An expression to sort by, with a direction. -/
structure SortKey where
  expression : String
  direction : SortDirection
deriving DecidableEq, Repr

/-- The text of a sort key. -/
def SortKey.text (key : SortKey) : String :=
  key.expression ++ " " ++ key.direction.keyword

/-- The parts of a query that hold fragments. -/
inductive QueryPart where
  | selections
  | joins
  | conditions
  | orderings
deriving DecidableEq, Repr

/-- A fragment of a query. A join belongs to the group of its root. -/
inductive Fragment where
  | selection (text : String)
  | join (root : String) (join : Join)
  | condition (text : String)
  | ordering (key : SortKey)
deriving DecidableEq, Repr

namespace Fragment

/-- The part a fragment belongs to. -/
def part : Fragment → QueryPart
  | .selection _ => .selections
  | .join _ _ => .joins
  | .condition _ => .conditions
  | .ordering _ => .orderings

/-- The text of a fragment. -/
def text : Fragment → String
  | .selection text => text
  | .join _ joined => joined.text
  | .condition text => text
  | .ordering key => key.text

end Fragment

end CriteriaQuery
