import SchemaChange.Build.Tables
import SchemaChange.Editor.Basic
import SchemaChange.Script

/-!
# Changes of rows, and scripts
-/

namespace SchemaChange.Editor

variable (e : Editor)

/-- Inserts one row, and tells whether a row was written. -/
def insertRow (table : String) (columns : List String) (values : List Value) (ignoring : Bool) :
    Operation Bool := do
  let statement ← e.build (·.insertRow table columns values)
  let affected? ← execute statement.sql statement.params ignoring
  return affected?.any (· != 0)

/-- Sets a column to a value, and counts the rows affected. -/
def updateTable (table column : String) (value : Value) (condition? : Option String)
    (ignoring : Bool) : Operation Nat := do
  let statement ← e.build (·.updateColumn table column value condition?)
  return (← execute statement.sql statement.params ignoring).getD 0

/-- How many statements of a script went through and how many were rejected. -/
structure ScriptSummary where
  executed : Nat := 0
  failed : Nat := 0
  deriving DecidableEq, Repr

/-- The number of statements. -/
def ScriptSummary.total (s : ScriptSummary) : Nat :=
  s.executed + s.failed

/-- Runs statements to the end, counting on from a summary. -/
def runCounting (summary : ScriptSummary) : List String → Operation ScriptSummary
  | [] => return summary
  | sql :: rest => do
    match ← execute sql [] true with
    | some _ => runCounting { summary with executed := summary.executed + 1 } rest
    | none => runCounting { summary with failed := summary.failed + 1 } rest

/-- Runs every statement of a script. Statements may be rejected. -/
def runScript (script : String) : Operation ScriptSummary :=
  runCounting {} (Script.split script)

/-- Runs the script in a file, given the bytes of the file if it can be read. -/
def executeScript (file? : Option (List UInt8)) : Operation ScriptSummary :=
  match file? with
  | none => throw (.database (.file "the file cannot be read"))
  | some bytes =>
    match Text.strictText? bytes with
    | none => throw (.database (.file "the file is not UTF-8"))
    | some script => runScript (String.ofList script)

end SchemaChange.Editor
