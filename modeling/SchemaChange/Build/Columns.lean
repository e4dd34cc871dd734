import SchemaChange.Build.Batch
import SchemaChange.Build.Builder

/-!
# Statements on columns
-/

namespace SchemaChange.Builder

variable (b : Builder)

/-- The words that add a column to a table. -/
def addKeyword : String :=
  match b.dialect with
  | .oracle => "ADD"
  | _ => "ADD COLUMN"

/-- Adds a column to a table. -/
def addClause (table : String) (column : ColumnSpec) : Except BuildError String := do
  let name ← b.ident table
  let definition ← b.columnDefinition column
  return "ALTER TABLE " ++ name ++ " " ++ b.addKeyword ++ " " ++ definition

/-- Gives the rows of a table a value in one column. -/
def backfill (table column : String) (value : Value) : Except BuildError String := do
  let tableName ← b.ident table
  let columnName ← b.ident column
  let text ← b.literal value
  return "UPDATE " ++ tableName ++ " SET " ++ columnName ++ " = " ++ text

/-- Adds a column, and writes its default, if it has one, into the rows that are there. A column with a
    default is added nullable, so that these rows are not refused before they have it. -/
def addColumn (table : String) (column : ColumnSpec) : Except BuildError Batch :=
  match column.default? with
  | none => return Batch.single (← b.addClause table column)
  | some value => do
    let add ← b.addClause table { column with nullable := true }
    let fill ← b.backfill table column.name value
    return (Batch.single add).push fill

/-- Drops a column. -/
def dropColumn (table column : String) : Except BuildError String := do
  let tableName ← b.ident table
  let columnName ← b.ident column
  return "ALTER TABLE " ++ tableName ++ " DROP COLUMN " ++ columnName

/-- Renames a column to the name of the description given. MySQL states the whole column anew. -/
def renameColumn (table oldName : String) (column : ColumnSpec) : Except BuildError String := do
  let tableName ← b.ident table
  let old ← b.ident oldName
  match b.dialect with
  | .mySql =>
    return "ALTER TABLE " ++ tableName ++ " CHANGE " ++ old ++ " " ++ (← b.columnDefinition column)
  | .derby =>
    return "RENAME COLUMN " ++ tableName ++ "." ++ old ++ " TO " ++ (← b.ident column.name)
  | .oracle | .postgres | .generic =>
    return "ALTER TABLE " ++ tableName ++ " RENAME COLUMN " ++ old ++ " TO " ++
      (← b.ident column.name)

/-- Allows or forbids NULL in a column. MySQL states the type anew, and therefore needs it. -/
def setNullable (table column : String) (typeName? : Option String) (nullable : Bool) :
    Except BuildError String := do
  let tableName ← b.ident table
  let columnName ← b.ident column
  let keyword := if nullable then "NULL" else "NOT NULL"
  match b.dialect with
  | .postgres | .generic =>
    return "ALTER TABLE " ++ tableName ++ " ALTER COLUMN " ++ columnName ++ " " ++
      (if nullable then "DROP" else "SET") ++ " NOT NULL"
  | .mySql =>
    match typeName? with
    | none => throw (.missingType column b.dialect)
    | some typeName =>
      if isTypeText typeName then
        return "ALTER TABLE " ++ tableName ++ " MODIFY " ++ columnName ++ " " ++ typeName ++ " " ++
          keyword
      else throw (.invalidIdentifier typeName)
  | .oracle => return "ALTER TABLE " ++ tableName ++ " MODIFY " ++ columnName ++ " " ++ keyword
  | .derby =>
    return "ALTER TABLE " ++ tableName ++ " ALTER COLUMN " ++ columnName ++ " " ++ keyword

/-- Gives a column a default for rows that are inserted from then on. -/
def setDefault (table column : String) (value : Value) : Except BuildError String := do
  let tableName ← b.ident table
  let columnName ← b.ident column
  let text ← b.literal value
  let clause := match b.dialect with
    | .oracle => " MODIFY " ++ columnName ++ " DEFAULT "
    | .derby => " ALTER COLUMN " ++ columnName ++ " DEFAULT "
    | .mySql | .postgres | .generic => " ALTER COLUMN " ++ columnName ++ " SET DEFAULT "
  return "ALTER TABLE " ++ tableName ++ clause ++ text

/-- Assigns one column to another in every row. -/
def copyColumn (table source target : String) : Except BuildError String := do
  let tableName ← b.ident table
  let targetName ← b.ident target
  let sourceName ← b.ident source
  return "UPDATE " ++ tableName ++ " SET " ++ targetName ++ " = " ++ sourceName

end SchemaChange.Builder
