import SchemaChange.Build.Batch
import SchemaChange.Build.Builder
import SchemaChange.Spec

/-!
# Statements on tables

Statements on tables, on their rows and their indexes, and on sequences. Rows are written by statements
with values bound to marks.
-/

namespace SchemaChange.Builder

variable (b : Builder)

/-- The clause of a table's primary key, if it has one. -/
def primaryKeyItem (table : TableSpec) : Except BuildError (List String) :=
  if table.primaryKey.isEmpty then .ok []
  else return ["PRIMARY KEY (" ++ (← b.identList table.name table.primaryKey) ++ ")"]

/-- Creates a table. -/
def createTable (table : TableSpec) : Except BuildError String := do
  table.validate
  let columns ← table.columns.mapM b.columnDefinition
  let key ← b.primaryKeyItem table
  let name ← b.ident table.name
  return "CREATE TABLE " ++ name ++ " (" ++ String.intercalate ", " (columns ++ key) ++ ")"

/-- Drops a table. -/
def dropTable (table : String) : Except BuildError String :=
  return "DROP TABLE " ++ (← b.ident table)

/-- Removes every row of a table, in a way that takes part in transactions everywhere. -/
def emptyTable (table : String) : Except BuildError String :=
  return "DELETE FROM " ++ (← b.ident table)

/-- Counts the rows of a table. -/
def countRows (table : String) : Except BuildError String :=
  return "SELECT COUNT(*) FROM " ++ (← b.ident table)

/-! ## Rows -/

/-- The marks from the `i`-th on, as many as asked for. -/
def placeholders (i : Nat) : Nat → List String
  | 0 => []
  | count + 1 => b.dialect.placeholder i :: placeholders (i + 1) count

/-- Inserts one row; as many values as columns. -/
def insertRow (table : String) (columns : List String) (values : List Value) :
    Except BuildError Statement := do
  if columns.length ≠ values.length then
    throw (.valueCountMismatch columns.length values.length)
  let tableName ← b.ident table
  let list ← b.identList table columns
  return ⟨"INSERT INTO " ++ tableName ++ " (" ++ list ++ ") VALUES (" ++
    String.intercalate ", " (b.placeholders 1 values.length) ++ ")", values⟩

/-- The condition of a statement, as the caller writes it; blank is none. -/
def whereClause : Option String → String
  | none => ""
  | some text =>
    let condition := Text.trim text.toList
    if condition.isEmpty then "" else " WHERE " ++ String.ofList condition

/-- Sets a column to a value in all rows, or in those of a condition that the caller writes. -/
def updateColumn (table column : String) (value : Value) (condition? : Option String) :
    Except BuildError Statement := do
  let tableName ← b.ident table
  let columnName ← b.ident column
  return ⟨"UPDATE " ++ tableName ++ " SET " ++ columnName ++ " = " ++ b.dialect.placeholder 1 ++
    whereClause condition?, [value]⟩

/-! ## Indexes and sequences -/

/-- Creates an index. -/
def createIndex (table name : String) (columns : List String) (unique : Bool) :
    Except BuildError String := do
  let index ← b.ident name
  let tableName ← b.ident table
  let list ← b.identList name columns
  return "CREATE " ++ (if unique then "UNIQUE " else "") ++ "INDEX " ++ index ++ " ON " ++
    tableName ++ " (" ++ list ++ ")"

/-- Drops an index; MySQL names its table too. -/
def dropIndex (table name : String) : Except BuildError String := do
  let index ← b.ident name
  match b.dialect with
  | .mySql => return "DROP INDEX " ++ index ++ " ON " ++ (← b.ident table)
  | _ => return "DROP INDEX " ++ index

/-- Refuses sequences where the dialect has none. -/
def requireSequences : Except BuildError Unit :=
  if b.dialect.hasSequences then .ok () else .error (.unsupported "sequences" b.dialect)

/-- Creates a sequence. -/
def createSequence (name : String) (start increment : Int64) : Except BuildError String := do
  b.requireSequences
  let sequence ← b.ident name
  return "CREATE SEQUENCE " ++ sequence ++ " START WITH " ++ Value.intText start.toInt ++
    " INCREMENT BY " ++ Value.intText increment.toInt

/-- Drops a sequence. -/
def dropSequence (name : String) : Except BuildError String := do
  b.requireSequences
  let sequence ← b.ident name
  return "DROP SEQUENCE " ++ sequence ++ (if b.dialect = .derby then " RESTRICT" else "")

end SchemaChange.Builder
