import SchemaChange.Build.Rebuild
import SchemaChange.Editor.Basic

/-!
# Changes of columns

Columns are added, dropped, renamed, copied and given another type. Where a type cannot be changed
in place the column is rebuilt (`Editor.applyRebuild`): nothing is dropped unless the copy went
through, and once the temporary column has its final name the change stands, so that a rejected
attribute is reported and not raised.
-/

namespace SchemaChange.Editor

variable (e : Editor)

/-- Adds a column unless the table has it, and writes its default into the rows that are there. -/
def addColumn (table : String) (column : ColumnSpec) (ignoring : Bool) : Operation Outcome := do
  let batch ← e.build (·.addColumn table column)
  let found ← e.inspector.columnExists table column.name
  if found then return .skipped else runAll ignoring batch.statements

/-- Drops a column if the table has it. -/
def dropColumn (table column : String) (ignoring : Bool) : Operation Outcome := do
  let sql ← e.build (·.dropColumn table column)
  let found ← e.inspector.columnExists table column
  runUnless (!found) sql ignoring

/-- Renames a column to the name of the description given. -/
def renameColumn (table oldName : String) (column : ColumnSpec) (ignoring : Bool) :
    Operation Outcome := do
  let sql ← e.build (·.renameColumn table oldName column)
  run sql ignoring

/-- The text that a value becomes in a text column; none for NULL. -/
def decoded? : Value → Option String
  | .null => none
  | .bytes bs => some (String.ofList (Text.tolerantText bs))
  | value => some value.display

/-- The values bound to write a row's text back: the text, and then the key columns of the row, or the
    source where there are none. None if the row has no source or its source is NULL. -/
def writeBack? (keyless : Bool) (row : Row) : Option (List Value) := do
  let source ← row.values.getLast?
  let text ← decoded? source
  return .text text :: (if keyless then [source] else row.values.dropLast)

/-- Writes the rows of a decoding copy back, up to the first one whose rejection is ignored. -/
def writeRows (update : String) (keyless ignoring : Bool) : List Row → Operation Outcome
  | [] => return .applied
  | row :: rows =>
    match writeBack? keyless row with
    | none => writeRows update keyless ignoring rows
    | some params => do
      match ← execute update params ignoring with
      | none => return .failureIgnored
      | some _ => writeRows update keyless ignoring rows

/-- Copies the values of one column into another. -/
def applyCopy (copy : Copy) (ignoring : Bool) : Operation Outcome :=
  match copy with
  | .assign sql => run sql ignoring
  | .decode select update keyColumns => do
    match ← Operation.attempt (.query select []) with
    | .ok result => writeRows update keyColumns.isEmpty ignoring result.rows
    | .error error =>
      if ignoring && error.isExecution then return .failureIgnored else throw (.database error)

/-- Runs all restorations, whether they are rejected or not. -/
def restore (outcome : Outcome) : List String → Operation Outcome
  | [] => return outcome
  | sql :: rest => do
    match ← run sql true with
    | .failureIgnored => restore .appliedWithoutAttributes rest
    | _ => restore outcome rest

/-- Rebuilds a column: adds the temporary column, copies, drops, renames, each only after the one before
    it went through, and then restores the attributes. -/
def applyRebuild (plan : Rebuild) (ignoring : Bool) : Operation Outcome := do
  if (← run plan.addTemporary ignoring) = .failureIgnored then return .failureIgnored
  if (← applyCopy plan.copy ignoring) = .failureIgnored then return .failureIgnored
  if (← runAll ignoring [plan.dropOld, plan.rename]) = .failureIgnored then
    return .failureIgnored
  restore .applied plan.restorations

/-- Changes the type of a column, by one statement or by a rebuild. -/
def applyChange (change : ColumnChange) (ignoring : Bool) : Operation Outcome :=
  match change with
  | .inPlace sql => run sql ignoring
  | .rebuild plan => applyRebuild plan ignoring

/-- How the type of a column is to be changed. Only a rebuild needs to know the current type and the
    primary key. -/
def planChange (table : String) (column : ColumnSpec) : Operation ColumnChange := do
  let builder ← e.inspector.builder
  if e.dialect.changesColumnTypes then
    Operation.built (builder.alterColumn table column .other [])
  else
    Operation.built column.validate
    let current ← e.inspector.columnSqlType table column.name
    let keyColumns ← e.inspector.primaryKeyColumns table
    Operation.built (builder.alterColumn table column current keyColumns)

/-- Gives a column the type that the description states. -/
def alterColumn (table : String) (column : ColumnSpec) (ignoring : Bool) : Operation Outcome := do
  let change ← e.planChange table column
  applyChange change ignoring

/-- Gives a column another type, given its current one. On Oracle, text of bounded length takes a detour
    to become text without bound. -/
def changeColumnType (table : String) (current : ColumnType) (column : ColumnSpec)
    (ignoring : Bool) : Operation Outcome :=
  if e.config.databaseType = .oracle ∧ current = .string ∧ column.type = .charArray then do
    let plan ← e.build (·.charArrayDetour table column)
    applyRebuild plan ignoring
  else e.alterColumn table column ignoring

/-- Allows or forbids NULL in a column, unless it is so already. -/
def setColumnNullable (table column : String) (nullable ignoring : Bool) : Operation Outcome := do
  let info ← e.inspector.requireColumn table column
  if info.nullable = nullable then return .skipped
  let sql ← e.build (·.setNullable table column (some info.declared) nullable)
  run sql ignoring

/-- Copies every value of one column into another. Bytes copied into text are decoded row by row. -/
def copyColumn (table source target : String) (ignoring : Bool) : Operation Outcome := do
  let builder ← e.inspector.builder
  let sourceType ← e.inspector.columnSqlType table source
  let targetType ← e.inspector.columnSqlType table target
  if sourceType.isBinary && targetType.isText then
    let keyColumns ← e.inspector.primaryKeyColumns table
    let copy ← Operation.built (builder.decodingCopy table source target keyColumns)
    applyCopy copy ignoring
  else
    let sql ← Operation.built (builder.copyColumn table source target)
    applyCopy (.assign sql) ignoring

end SchemaChange.Editor
