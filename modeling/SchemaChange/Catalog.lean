import SchemaChange.SqlType

/-!
# What a catalog reports

The entries of a database's catalog: tables, columns, primary keys, foreign keys and indexes. A key
over several columns is reported as one entry for each column, with its position in the key.
-/

namespace SchemaChange

/-- The kinds of relations that a catalog lists. -/
inductive TableKind where
  | table | view
  deriving DecidableEq, Repr

/-- The name of the kind. -/
def TableKind.name : TableKind → String
  | table => "Table"
  | view => "View"

/-- A table or a view. -/
structure TableInfo where
  name : String
  kind : TableKind
  deriving DecidableEq, Repr

/-- A column of a table. -/
structure ColumnInfo where
  table : String
  name : String
  /-- The position within the table, counted from one. -/
  ordinal : Nat
  /-- The type as the database declares it. -/
  declared : String
  sqlType : SqlType
  nullable : Bool
  default? : Option String
  /-- The length a type declares. -/
  maxLength? : Option UInt32
  deriving DecidableEq

/-- One column of a primary key. -/
structure PrimaryKeyColumn where
  table : String
  column : String
  constraint? : Option String
  /-- The position within the key, counted from one. -/
  position : Nat
  deriving DecidableEq, Repr

/-- What happens to referring rows when a referenced row is deleted. -/
inductive ForeignKeyAction where
  | noAction | restrict | cascade | setNull | setDefault
  deriving DecidableEq, Repr

namespace ForeignKeyAction

/-- The action that a catalog's text names; a text that names none is no action. -/
def ofText (text : String) : ForeignKeyAction :=
  match String.ofList (Text.asciiUpper (Text.trim text.toList)) with
  | "CASCADE" => cascade
  | "RESTRICT" => restrict
  | "SET NULL" => setNull
  | "SET DEFAULT" => setDefault
  | _ => noAction

/-- The name of the action. -/
def name : ForeignKeyAction → String
  | noAction => "NoAction"
  | restrict => "Restrict"
  | cascade => "Cascade"
  | setNull => "SetNull"
  | setDefault => "SetDefault"

/-- All actions. -/
def all : List ForeignKeyAction :=
  [noAction, restrict, cascade, setNull, setDefault]

end ForeignKeyAction

/-- One column of a foreign key with the column it refers to. -/
structure ForeignKeyColumn where
  /-- The name of the constraint, where the database reports one. -/
  constraint? : Option String
  table : String
  column : String
  referencedTable : String
  referencedColumn : String
  /-- The position within the key, counted from one. -/
  position : Nat
  onDelete : ForeignKeyAction
  deriving DecidableEq, Repr

/-- An index of a table. -/
structure IndexInfo where
  table : String
  name : String
  columns : List String
  unique : Bool
  deriving DecidableEq, Repr

end SchemaChange
