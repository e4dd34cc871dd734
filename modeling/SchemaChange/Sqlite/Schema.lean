import SchemaChange.Sqlite.Declared

/-!
# SQLite schemas

A schema as it was declared: tables with their columns and keys, indexes, and views, each in the
order of their creation.
-/

namespace SchemaChange.Sqlite

/-- A declared column. -/
structure Column where
  name : String
  /-- The type as written; possibly none. -/
  declared : String
  notNull : Bool := false
  /-- The default as written. -/
  default? : Option String := none
  deriving DecidableEq, Repr

/-- A declared foreign key. -/
structure ForeignKey where
  columns : List String
  referencedTable : String
  /-- The columns referred to; the primary key of the table if they are not stated. -/
  references? : Option (List String) := none
  /-- What happens when a referenced row is deleted, as written. -/
  onDelete : String := ""
  deriving DecidableEq, Repr

/-- A declared table. -/
structure Table where
  name : String
  columns : List Column
  primaryKey : List String := []
  foreignKeys : List ForeignKey := []
  deriving DecidableEq, Repr

/-- A declared index. -/
structure Index where
  name : String
  table : String
  columns : List String
  unique : Bool := false
  deriving DecidableEq, Repr

/-- A schema. -/
structure Schema where
  tables : List Table := []
  indexes : List Index := []
  views : List String := []
  deriving DecidableEq, Repr

namespace Table

/-- The column of a name. -/
def column? (t : Table) (name : String) : Option Column :=
  t.columns.find? (Text.sameName ·.name name)

/-- A column's name as the table declares it. -/
def spelling (t : Table) (name : String) : String :=
  ((t.column? name).map (·.name)).getD name

/-- Whether the primary key is one column of the known type `INTEGER`, which is the row number itself and
    has no index. -/
def keyIsRowId (t : Table) : Bool :=
  match t.primaryKey with
  | [key] => (t.column? key).any (standardType? ·.declared = some "INTEGER")
  | _ => false

end Table

/-- The table of a name. -/
def Schema.table? (s : Schema) (name : String) : Option Table :=
  s.tables.find? (Text.sameName ·.name name)

end SchemaChange.Sqlite
