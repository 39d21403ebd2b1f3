import CriteriaQuery.QueryError
import CriteriaQuery.Value.Basic
import CriteriaQuery.Wire.SqlType

/-!
# Rows

A row of an answer: cells under named columns that have types. A cell is read by
the name of its column and the kind of value wanted. The name is matched exactly
first and without regard to the case of ASCII letters then; the type of the column
has to be the one the kind is read from, and a null is read only where it is
allowed.
-/

namespace CriteriaQuery

/-- A column of an answer. -/
structure AnswerColumn where
  name : String
  type : Wire.SqlType
deriving DecidableEq, Repr

/-- A row of an answer. -/
structure Row where
  columns : List AnswerColumn
  cells : List Value
deriving Inhabited

/-- The kinds of values that cells are read as. -/
inductive CellKind where
  | text
  | int8
  | int4
  | bool
deriving DecidableEq, Repr

/-- Whether cells of a type are read as a kind. -/
def CellKind.reads : CellKind → Wire.SqlType → Bool
  | .text, .scalar type => type ∈ [.text, .varchar, .bpchar, .name, .unknown]
  | .text, other => other.name ∈ ["citext", "ltree", "lquery", "ltxtquery"]
  | .int8, type => type = .scalar .int8
  | .int4, type => type = .scalar .int4
  | .bool, type => type = .scalar .bool

/-- How a column of a row is read: by name, as a kind, with or without nulls. -/
structure CellReader where
  column : String
  kind : CellKind
  nullable : Bool
deriving DecidableEq, Repr

namespace Row

/-- Whether two names are equal up to the case of ASCII letters. -/
def equalIgnoringCase (left right : String) : Bool :=
  left.toList.map Char.toLower == right.toList.map Char.toLower

/-- The position of a column. -/
def columnIndex? (row : Row) (name : String) : Option Nat :=
  (row.columns.findIdx? (·.name == name)).or
    (row.columns.findIdx? fun column => equalIgnoringCase column.name name)

/-- Read a cell. -/
def read (row : Row) (reader : CellReader) : Except QueryError Value :=
  match row.columnIndex? reader.column with
  | none => .error (.decode reader.column ("invalid column \x60" ++ reader.column ++ "\x60"))
  | some index =>
      let unreadable : Except QueryError Value :=
        .error (.decode reader.column ("error deserializing column " ++ Nat.repr index))
      match row.columns[index]?, row.cells[index]? with
      | some column, some cell =>
          if !reader.kind.reads column.type then unreadable
          else if cell.isNull && !reader.nullable then unreadable
          else .ok cell
      | _, _ => unreadable

/-- Read cells in order, with the names they are asked for by. -/
def readAll (row : Row) : List CellReader → Except QueryError (List (String × Value))
  | [] => .ok []
  | reader :: rest => do
      let value ← row.read reader
      let others ← row.readAll rest
      return (reader.column, value) :: others

end Row

end CriteriaQuery
