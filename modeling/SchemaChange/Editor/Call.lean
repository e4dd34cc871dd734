import SchemaChange.Editor.Columns
import SchemaChange.Editor.Constraints
import SchemaChange.Editor.Rows
import SchemaChange.Editor.Tables

/-!
# Calls

What can be asked of an editor, as data: the changes that it makes (`Edit`) and the questions that
its inspector answers (`Question`), with their arguments. A statement about all of them, or about any
sequence of them, is a statement about calls.
-/

namespace SchemaChange

/-- Whether a request is made to the catalog of the connection. -/
def Request.introspects : Request → Bool
  | .currentCatalog => false
  | r => r.isLookup

/-- Whether a request looks something up, for a call that reads no rows but those it copies, or none at
    all. What is looked up by a query are the names of constraints and the number of rows. -/
def Request.looksUp (copies : Bool) : Request → Bool
  | .query _ _ => !copies
  | r => r.isLookup

/-- A change that an editor makes. -/
inductive Edit where
  | createTable (table : TableSpec)
  | dropTable (table : String)
  | emptyTable (table : String)
  | createIndex (table name : String) (columns : List String) (unique : Bool)
  | dropIndex (table name : String)
  | createSequence (name : String) (start increment : Int64)
  | dropSequence (name : String)
  | addColumn (table : String) (column : ColumnSpec)
  | dropColumn (table column : String)
  | renameColumn (table oldName : String) (column : ColumnSpec)
  | alterColumn (table : String) (column : ColumnSpec)
  | changeColumnType (table : String) (current : ColumnType) (column : ColumnSpec)
  | setColumnNullable (table column : String) (nullable : Bool)
  | copyColumn (table source target : String)
  | addConstraint (c : ConstraintSpec)
  | addPrimaryKey (table name : String) (columns : List String)
  | addUnique (table name : String) (columns : List String)
  | addForeignKey (c : ConstraintSpec)
  | dropForeignKey (table name : String)
  | dropUnique (table name : String)
  | dropPrimaryKey (table name : String) (column? : Option String)
  | insertRow (table : String) (columns : List String) (values : List Value)
  | updateTable (table column : String) (value : Value) (condition? : Option String)
  | executeStatement (sql : String)
  | executeIfColumn (sql table column : String)
  | executeUpdate (sql : String)
  | executeScript (file? : Option (List UInt8))

namespace Edit

/-- What an edit gives back. -/
abbrev Result : Edit → Type
  | insertRow .. => Bool
  | updateTable .. => Nat
  | executeUpdate .. => Nat
  | executeScript .. => Editor.ScriptSummary
  | _ => Outcome

/-- Makes the change. Rejections are always ignored for sequences and scripts. -/
def perform (e : Editor) (ignoring : Bool) : (edit : Edit) → Operation edit.Result
  | createTable table => e.createTable table ignoring
  | dropTable table => e.dropTable table ignoring
  | emptyTable table => e.emptyTable table ignoring
  | createIndex table name columns unique => e.createIndex table name columns unique ignoring
  | dropIndex table name => e.dropIndex table name ignoring
  | createSequence name start increment => e.createSequence name start increment
  | dropSequence name => e.dropSequence name
  | addColumn table column => e.addColumn table column ignoring
  | dropColumn table column => e.dropColumn table column ignoring
  | renameColumn table oldName column => e.renameColumn table oldName column ignoring
  | alterColumn table column => e.alterColumn table column ignoring
  | changeColumnType table current column => e.changeColumnType table current column ignoring
  | setColumnNullable table column nullable => e.setColumnNullable table column nullable ignoring
  | copyColumn table source target => e.copyColumn table source target ignoring
  | addConstraint c => e.addConstraint c ignoring
  | addPrimaryKey table name columns => e.addPrimaryKey table name columns ignoring
  | addUnique table name columns => e.addUnique table name columns ignoring
  | addForeignKey c => e.addForeignKey c ignoring
  | dropForeignKey table name => e.dropForeignKey table name ignoring
  | dropUnique table name => e.dropUnique table name ignoring
  | dropPrimaryKey table name column? => e.dropPrimaryKey table name column? ignoring
  | insertRow table columns values => e.insertRow table columns values ignoring
  | updateTable table column value condition? =>
    e.updateTable table column value condition? ignoring
  | executeStatement sql => Editor.executeStatement sql ignoring
  | executeIfColumn sql table column => e.executeIfColumn sql table column ignoring
  | executeUpdate sql => Editor.executeUpdate sql ignoring
  | executeScript file? => Editor.executeScript file?

/-- What an edit gives back for a rejected statement that is ignored. -/
def ignored : (edit : Edit) → edit.Result
  | insertRow .. => false
  | updateTable .. => (0 : Nat)
  | executeUpdate .. => (0 : Nat)
  | executeScript .. => ({} : Editor.ScriptSummary)
  | createTable .. | dropTable .. | emptyTable .. | createIndex .. | dropIndex ..
  | createSequence .. | dropSequence .. | addColumn .. | dropColumn .. | renameColumn ..
  | alterColumn .. | changeColumnType .. | setColumnNullable .. | copyColumn ..
  | addConstraint .. | addPrimaryKey .. | addUnique .. | addForeignKey .. | dropForeignKey ..
  | dropUnique .. | dropPrimaryKey .. | executeStatement .. | executeIfColumn .. =>
    Outcome.failureIgnored

/-- Whether the edit may read the rows of a table in order to write them back. -/
def copiesRows : Edit → Bool
  | alterColumn .. | changeColumnType .. | copyColumn .. => true
  | _ => false

end Edit

/-- A question that an inspector answers. -/
inductive Question where
  | caseRule
  | builder
  | tableExists (table : String)
  | columns (table? : Option String)
  | columnInfo (table column : String)
  | columnExists (table column : String)
  | columnsExist (table : String) (names : List String)
  | columnSqlType (table column : String)
  | isColumnNullable (table column : String)
  | columnValueKind (table column : String)
  | primaryKeyColumns (table : String)
  | hasPrimaryKey (table : String) (column? : Option String)
  | importedForeignKeys (table : String)
  | hasForeignKeyNamed (table name : String)
  | hasForeignKey (table referencedTable : String) (columns references : List String)
  | hasConstraint (table name : String)
  | indexExists (table name : String)
  | tableHasData (table : String)

namespace Question

/-- The type of the answer. -/
abbrev Answer : Question → Type
  | caseRule => CaseRule
  | builder => Builder
  | columns _ => List ColumnInfo
  | columnInfo _ _ => Option ColumnInfo
  | columnSqlType _ _ => SqlType
  | columnValueKind _ _ => ValueKind
  | primaryKeyColumns _ => List String
  | importedForeignKeys _ => List ForeignKeyColumn
  | _ => Bool

/-- Answers the question. -/
def answer (i : Inspector) : (q : Question) → Operation q.Answer
  | caseRule => i.caseRule
  | builder => i.builder
  | tableExists table => i.tableExists table
  | columns table? => i.columns table?
  | columnInfo table column => i.columnInfo? table column
  | columnExists table column => i.columnExists table column
  | columnsExist table names => i.columnsExist table names
  | columnSqlType table column => i.columnSqlType table column
  | isColumnNullable table column => i.isColumnNullable table column
  | columnValueKind table column => i.columnValueKind table column
  | primaryKeyColumns table => i.primaryKeyColumns table
  | hasPrimaryKey table column? => i.hasPrimaryKey table column?
  | importedForeignKeys table => i.importedForeignKeys table
  | hasForeignKeyNamed table name => i.hasForeignKeyNamed table name
  | hasForeignKey table referencedTable names references =>
    i.hasForeignKey table referencedTable names references
  | hasConstraint table name => i.hasConstraint table name
  | indexExists table name => i.indexExists table name
  | tableHasData table => i.tableHasData table

end Question

/-- Anything that is asked of an editor. -/
inductive Call where
  | edit (change : Edit) (ignoring : Bool)
  | question (q : Question)

namespace Call

/-- What a call gives back. -/
abbrev Result : Call → Type
  | edit change _ => change.Result
  | question q => q.Answer

/-- Carries out the call. -/
def perform (e : Editor) : (call : Call) → Operation call.Result
  | edit change ignoring => change.perform e ignoring
  | question q => q.answer e.inspector

/-- Whether the call may read the rows of a table in order to write them back. -/
def copiesRows : Call → Bool
  | edit change _ => change.copiesRows
  | question _ => false

end Call

end SchemaChange
