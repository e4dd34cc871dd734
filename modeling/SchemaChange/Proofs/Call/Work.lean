import SchemaChange.Editor.Call
import SchemaChange.Proofs.Course.Statement

/-!
# The work of an edit

What an edit is to send once it is known that something is to be done: the statements that the builder
makes for it, or the copy of a column. Some of it has to be found out first (`Edit.findings`); the rest is
the builder's (`Edit.work?`).

`Edit.report?` is the outcome that an edit reports. Edits of rows and scripts report none.
-/

namespace SchemaChange

/-- What an edit sends. -/
inductive Work where
  /-- Statements, one after the other. -/
  | statements (sqls : List String)
  | copy (copy : Copy)

/-- The requests of the work, given the rows that a copy reads. -/
def Work.requests (rows : List Row) : Work → List Request
  | statements sqls => sqls.map fun sql => .execute sql []
  | copy c => c.requests rows

namespace Edit

/-- What has to be found out before the work is known. -/
structure Findings where
  builder : Builder
  /-- The declared type of a column that is to allow or forbid NULL. -/
  declared : String := ""
  /-- Whether a copy turns bytes into text. -/
  decodes : Bool := false
  /-- The primary key of the table whose rows are decoded. -/
  keyColumns : List String := []

/-- Finds out what has to be known. -/
def findings (e : Editor) : Edit → Operation Findings
  | setColumnNullable table column _ => do
    let info ← e.inspector.requireColumn table column
    let builder ← e.inspector.builder
    return { builder, declared := info.declared }
  | copyColumn table source target => do
    let builder ← e.inspector.builder
    let sourceType ← e.inspector.columnSqlType table source
    let targetType ← e.inspector.columnSqlType table target
    if sourceType.isBinary && targetType.isText then
      let keyColumns ← e.inspector.primaryKeyColumns table
      return { builder, decodes := true, keyColumns }
    else return { builder }
  | executeStatement _ | executeIfColumn _ _ _ =>
    -- The statement is the caller's own.
    return { builder := { dialect := e.dialect, options := e.inspector.options } }
  | _ => do
    let builder ← e.inspector.builder
    return { builder }

/-- The work of one statement. -/
def one (made : Except BuildError String) : Option (Except BuildError Work) :=
  some ((fun sql => .statements [sql]) <$> made)

/-- The work of an edit, or why it is refused. A change of a column's type is taken to be one in place;
    an edit that reports no outcome has no work here. -/
def work? (f : Findings) : Edit → Option (Except BuildError Work)
  | createTable table => one (f.builder.createTable table)
  | dropTable table => one (f.builder.dropTable table)
  | emptyTable table => one (f.builder.emptyTable table)
  | createIndex table name columns unique => one (f.builder.createIndex table name columns unique)
  | dropIndex table name => one (f.builder.dropIndex table name)
  | createSequence name start increment => one (f.builder.createSequence name start increment)
  | dropSequence name => one (f.builder.dropSequence name)
  | addColumn table column =>
    some ((fun batch => .statements batch.statements) <$> f.builder.addColumn table column)
  | dropColumn table column => one (f.builder.dropColumn table column)
  | renameColumn table oldName column => one (f.builder.renameColumn table oldName column)
  | alterColumn table column | changeColumnType table _ column =>
    one (f.builder.changeColumnInPlace table column)
  | setColumnNullable table column nullable =>
    one (f.builder.setNullable table column (some f.declared) nullable)
  | copyColumn table source target =>
    if f.decodes then some (.copy <$> f.builder.decodingCopy table source target f.keyColumns)
    else one (f.builder.copyColumn table source target)
  | addConstraint c | addForeignKey c => one (f.builder.addConstraint c)
  | addPrimaryKey table name columns =>
    one (f.builder.addConstraint { table, name, columns, kind := .primaryKey })
  | addUnique table name columns =>
    one (f.builder.addConstraint { table, name, columns, kind := .unique })
  | dropForeignKey table name => one (f.builder.dropForeignKey table name)
  | dropUnique table name => one (f.builder.dropUnique table name)
  | dropPrimaryKey table name _ => one (f.builder.dropPrimaryKey table name)
  | executeStatement sql | executeIfColumn sql _ _ => one (.ok sql)
  | insertRow .. | updateTable .. | executeUpdate .. | executeScript .. => none

/-- Whether rejections are ignored: always for sequences and scripts. -/
def ignores (ignoring : Bool) : Edit → Bool
  | createSequence .. | dropSequence .. | executeScript .. => true
  | _ => ignoring

/-- The outcome that an edit reports, or the failure that it ends in. -/
def report? : (edit : Edit) → Except Failure edit.Result → Option (Except Failure Outcome)
  | insertRow .., _ | updateTable .., _ | executeUpdate .., _ | executeScript .., _ => none
  | createTable .., r | dropTable .., r | emptyTable .., r | createIndex .., r | dropIndex .., r
  | createSequence .., r | dropSequence .., r | addColumn .., r | dropColumn .., r
  | renameColumn .., r | alterColumn .., r | changeColumnType .., r | setColumnNullable .., r
  | copyColumn .., r | addConstraint .., r | addPrimaryKey .., r | addUnique .., r
  | addForeignKey .., r | dropForeignKey .., r | dropUnique .., r | dropPrimaryKey .., r
  | executeStatement .., r | executeIfColumn .., r => some r

end Edit

end SchemaChange
