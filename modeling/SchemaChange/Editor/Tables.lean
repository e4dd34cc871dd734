import SchemaChange.Build.Tables
import SchemaChange.Editor.Basic

/-!
# Changes of tables, indexes and sequences

Creating what is there and dropping what is not are skipped. Sequences are skipped where the dialect
has none, and the database may always reject them.
-/

namespace SchemaChange.Editor

variable (e : Editor)

/-- Creates a table unless it exists. -/
def createTable (table : TableSpec) (ignoring : Bool) : Operation Outcome := do
  let sql ← e.build (·.createTable table)
  let found ← e.inspector.tableExists table.name
  runUnless found sql ignoring

/-- Drops a table if it exists. -/
def dropTable (table : String) (ignoring : Bool) : Operation Outcome := do
  let sql ← e.build (·.dropTable table)
  let found ← e.inspector.tableExists table
  runUnless (!found) sql ignoring

/-- Removes every row of a table. -/
def emptyTable (table : String) (ignoring : Bool) : Operation Outcome := do
  let sql ← e.build (·.emptyTable table)
  run sql ignoring

/-- Creates an index unless the table has one of that name. -/
def createIndex (table name : String) (columns : List String) (unique ignoring : Bool) :
    Operation Outcome := do
  let sql ← e.build (·.createIndex table name columns unique)
  let found ← e.inspector.indexExists table name
  runUnless found sql ignoring

/-- Drops an index if the table has it. -/
def dropIndex (table name : String) (ignoring : Bool) : Operation Outcome := do
  let sql ← e.build (·.dropIndex table name)
  let found ← e.inspector.indexExists table name
  runUnless (!found) sql ignoring

/-- Creates a sequence. -/
def createSequence (name : String) (start increment : Int64) : Operation Outcome :=
  if e.dialect.hasSequences then do
    let sql ← e.build (·.createSequence name start increment)
    run sql true
  else return .skipped

/-- Drops a sequence. -/
def dropSequence (name : String) : Operation Outcome :=
  if e.dialect.hasSequences then do
    let sql ← e.build (·.dropSequence name)
    run sql true
  else return .skipped

end SchemaChange.Editor
