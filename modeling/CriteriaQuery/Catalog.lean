import CriteriaQuery.OrderedMap

/-!
# Entities and the catalog of tables

The table that the entities of a repository are rows of, as declared by the program, and the
tables a program knows, by schema and name. A table that is registered again replaces the one
of its schema and name. A table is looked up by name alone in the schema `public` first and in
the other schemas then, whose order has no meaning.
-/

namespace CriteriaQuery

/-- The table of an entity: its name, the alias it is selected under, its columns, its
schema and its primary key. -/
structure Entity where
  table : String
  rootAlias : String
  columns : List String
  schema : String := "public"
  primaryKey : Option String := none
deriving DecidableEq, Repr, Inhabited

/-- A column of a table. -/
structure Column where
  name : String
  isPrimaryKey : Bool
deriving DecidableEq, Repr

/-- A table of a schema. -/
structure Table where
  schema : String
  name : String
  columns : List Column
deriving DecidableEq, Repr, Inhabited

namespace Table

/-- Add a column. -/
def addColumn (table : Table) (name : String) (isPrimaryKey : Bool) : Table :=
  { table with columns := table.columns ++ [{ name, isPrimaryKey }] }

/-- A table of ordinary columns. -/
def ofColumns (schema name : String) (columns : List String) : Table where
  schema
  name
  columns := columns.map fun column => { name := column, isPrimaryKey := false }

/-- Whether a table has a column. -/
def hasColumn (table : Table) (name : String) : Bool :=
  table.columns.any (·.name == name)

/-- Make a column the primary key and no other; it is added if it is missing. -/
def withPrimaryKey (table : Table) (name : String) : Table :=
  let marked : Table :=
    { table with
      columns := table.columns.map fun column =>
        { column with isPrimaryKey := column.name == name } }
  if marked.hasColumn name then marked else marked.addColumn name true

/-- The table of an entity. -/
def ofEntity (entity : Entity) : Table where
  schema := entity.schema
  name := entity.table
  columns := entity.columns.map fun column =>
    { name := column, isPrimaryKey := entity.primaryKey == some column }

end Table

/-- The tables of each schema, by their names. -/
structure Catalog where
  schemas : OrderedMap String (OrderedMap String Table)
deriving Inhabited

namespace Catalog

/-- The catalog without tables. -/
def empty : Catalog where
  schemas := .empty

/-- The schema that is searched first. -/
def defaultSchema : String := "public"

/-- The tables of a schema; a schema that is not there has none. -/
def tablesOf (catalog : Catalog) (schema : String) : OrderedMap String Table :=
  (catalog.schemas.get? schema).getD .empty

/-- Add a table or replace the one of its schema and name. -/
def registerTable (catalog : Catalog) (table : Table) : Catalog where
  schemas :=
    catalog.schemas.insert table.schema
      ((catalog.tablesOf table.schema).insert table.name table)

/-- Add the table of an entity. -/
def register (catalog : Catalog) (entity : Entity) : Catalog :=
  catalog.registerTable (.ofEntity entity)

/-- The table of a schema and name. -/
def table? (catalog : Catalog) (schema name : String) : Option Table :=
  (catalog.schemas.get? schema).bind (·.get? name)

/-- The table of a name, from the default schema if it is there and from the first schema
that has one if not. -/
def findTable? (catalog : Catalog) (name : String) : Option Table :=
  (catalog.table? defaultSchema name).or (catalog.schemas.values.findSome? (·.get? name))

/-- Whether the table of a name has a column. -/
def declares (catalog : Catalog) (table column : String) : Bool :=
  match catalog.findTable? table with
  | some found => found.hasColumn column
  | none => false

/-- The number of tables. -/
def size (catalog : Catalog) : Nat :=
  catalog.schemas.total OrderedMap.size

/-- Whether there is no table. -/
def isEmpty (catalog : Catalog) : Bool :=
  catalog.schemas.values.all OrderedMap.isEmpty

end Catalog

end CriteriaQuery
