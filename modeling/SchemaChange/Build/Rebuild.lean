import SchemaChange.Build.Columns
import SchemaChange.SqlType

/-!
# Rebuilding a column

A dialect that cannot change the type of a column in place gets the column rebuilt: a temporary
column of the new type is added, the data are copied, the old one is dropped and the temporary
column takes its name. Only then NOT NULL and the default come back, because the temporary column
has to be without them while it is filled.

A `Rebuild` is such a plan as data, complete before its first statement is sent.
-/

namespace SchemaChange

/-- How the values of one column get into another. -/
inductive Copy where
  /-- One statement assigns the column. -/
  | assign (sql : String)
  /-- Bytes become text. Each row that `select` returns, its key columns followed by the source, is
      decoded and written back by `update`, whose values are the text and then the key of the row; with
      no key columns the source value itself is the key. -/
  | decode (select update : String) (keyColumns : List String)
  deriving DecidableEq, Repr

/-- The plan of a column's rebuild. -/
structure Rebuild where
  /-- The name of the temporary column. -/
  temporary : String
  addTemporary : String
  copy : Copy
  dropOld : String
  rename : String
  /-- Forbids NULL again, where the target does. -/
  restoreNullability? : Option String
  /-- Sets the default again, where the target has one. -/
  restoreDefault? : Option String
  deriving DecidableEq, Repr

namespace Rebuild

/-- The statements that follow the rename. -/
def restorations (r : Rebuild) : List String :=
  r.restoreNullability?.toList ++ r.restoreDefault?.toList

/-- The statements in the order they are sent; of a copy row by row only the selection. -/
def statements (r : Rebuild) : List String :=
  let copied := match r.copy with
    | .assign sql => sql
    | .decode select _ _ => select
  [r.addTemporary, copied, r.dropOld, r.rename] ++ r.restorations

end Rebuild

/-- How the type of a column is changed. -/
inductive ColumnChange where
  /-- By one statement. -/
  | inPlace (sql : String)
  | rebuild (plan : Rebuild)
  deriving DecidableEq, Repr

/-- What is appended to a column's name for its temporary column. -/
def temporarySuffix : String := "_TMP"

/-- What is appended where a text column of bounded length becomes one without bound. -/
def detourSuffix : String := "_temp"

namespace Builder

variable (b : Builder)

/-- The conditions that single out a row by its key columns, whose values are bound from the second mark
    on. -/
def keyConditions (i : Nat) : List String → List String
  | [] => []
  | key :: keys => (key ++ " = " ++ b.dialect.placeholder i) :: keyConditions (i + 1) keys

/-- Copies a binary column into a text column row by row. Without key columns the source itself singles
    out the row, which needs a dialect that compares large objects. -/
def decodingCopy (table source target : String) (keyColumns : List String) :
    Except BuildError Copy := do
  let tableName ← b.ident table
  let sourceName ← b.ident source
  let targetName ← b.ident target
  let keys ← keyColumns.mapM b.ident
  if keys.isEmpty && !b.dialect.comparesLobs then
    throw (.unsupported "binary to text copy without key columns" b.dialect)
  let selected := String.intercalate ", " (keys ++ [sourceName])
  let conditions := b.keyConditions 2 (if keys.isEmpty then [sourceName] else keys)
  return .decode
    ("SELECT " ++ selected ++ " FROM " ++ tableName ++ " WHERE " ++ sourceName ++ " IS NOT NULL")
    ("UPDATE " ++ tableName ++ " SET " ++ targetName ++ " = " ++ b.dialect.placeholder 1 ++
      " WHERE " ++ String.intercalate " AND " conditions)
    keyColumns

/-- The plan that gives the column of the target's name the target's type. A binary column that is to
    hold something else is decoded row by row, any other is assigned. -/
def rebuildColumn (table : String) (target : ColumnSpec) (current : SqlType) (suffix : String)
    (keyColumns : List String) : Except BuildError Rebuild := do
  target.validate
  let temporary := target.name ++ suffix
  let staged : ColumnSpec := { target with name := temporary, nullable := true, default? := none }
  let addTemporary ← b.addClause table staged
  let copy ←
    if current.isBinary && !target.type.isBinary then
      b.decodingCopy table target.name temporary keyColumns
    else Copy.assign <$> b.copyColumn table target.name temporary
  let restoreNullability? ←
    if target.nullable then pure none
    else do
      let typeName ← b.nativeType target
      some <$> b.setNullable table target.name (some typeName) false
  let restoreDefault? ← match target.default? with
    | none => pure none
    | some value => some <$> b.setDefault table target.name value
  let dropOld ← b.dropColumn table target.name
  let rename ← b.renameColumn table temporary (staged.renamed target.name)
  return { temporary, addTemporary, copy, dropOld, rename, restoreNullability?,
           restoreDefault? }

/-- The plan that turns a text column of bounded length into one without bound. -/
def charArrayDetour (table : String) (column : ColumnSpec) : Except BuildError Rebuild :=
  b.rebuildColumn table column .varchar detourSuffix []

/-- Changes the type of a column in place. MySQL states the whole column anew, its default included;
    Oracle and PostgreSQL change the type alone. -/
def changeColumnInPlace (table : String) (column : ColumnSpec) : Except BuildError String := do
  let tableName ← b.ident table
  let columnName ← b.ident column.name
  let typeName ← b.nativeType column
  match b.dialect with
  | .postgres =>
    return "ALTER TABLE " ++ tableName ++ " ALTER COLUMN " ++ columnName ++ " TYPE " ++ typeName
  | .mySql => return "ALTER TABLE " ++ tableName ++ " MODIFY " ++ (← b.columnDefinition column)
  | .oracle => return "ALTER TABLE " ++ tableName ++ " MODIFY " ++ columnName ++ " " ++ typeName
  | .derby | .generic => throw (.unsupported "in-place column type change" b.dialect)

/-- Gives a column another type, in place where the dialect can, otherwise by a rebuild. The current type
    and the key columns matter only for a rebuild. -/
def alterColumn (table : String) (column : ColumnSpec) (current : SqlType)
    (keyColumns : List String) : Except BuildError ColumnChange :=
  if b.dialect.changesColumnTypes then
    return .inPlace (← b.changeColumnInPlace table column)
  else
    return .rebuild (← b.rebuildColumn table column current temporarySuffix keyColumns)

end Builder

end SchemaChange
