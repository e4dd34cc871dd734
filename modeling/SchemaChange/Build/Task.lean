import SchemaChange.Build.Constraints
import SchemaChange.Build.Rebuild
import SchemaChange.Build.Tables

/-!
# Tasks

What a builder can be asked to write, as data. A task may come to several statements: those of a batch,
or those that carry out a rebuild. A statement about all that a builder writes is a statement about
tasks.
-/

namespace SchemaChange

/-- The texts of the statements that copy a column. -/
def Copy.texts : Copy → List String
  | assign sql => [sql]
  | decode select update _ => [select, update]

/-- The texts of the statements that carry out a plan. -/
def Rebuild.texts (r : Rebuild) : List String :=
  r.addTemporary :: (r.copy.texts ++ [r.dropOld, r.rename] ++ r.restorations)

/-- The texts of the statements that change a type. -/
def ColumnChange.texts : ColumnChange → List String
  | inPlace sql => [sql]
  | rebuild plan => plan.texts

namespace Builder

/-- What a builder can be asked to write. -/
inductive Task where
  | createTable (table : TableSpec)
  | dropTable (table : String)
  | emptyTable (table : String)
  | countRows (table : String)
  | addColumn (table : String) (column : ColumnSpec)
  | dropColumn (table column : String)
  | renameColumn (table oldName : String) (column : ColumnSpec)
  | alterColumn (table : String) (column : ColumnSpec) (current : SqlType) (keyColumns : List String)
  | rebuildColumn (table : String) (target : ColumnSpec) (current : SqlType) (suffix : String)
      (keyColumns : List String)
  | charArrayDetour (table : String) (column : ColumnSpec)
  | setNullable (table column : String) (typeName? : Option String) (nullable : Bool)
  | setDefault (table column : String) (value : Value)
  | addConstraint (c : ConstraintSpec)
  | dropForeignKey (table name : String)
  | dropUnique (table name : String)
  | dropPrimaryKey (table name : String)
  | constraintNames (table : String) (catalog? : Option String)
  | createIndex (table name : String) (columns : List String) (unique : Bool)
  | dropIndex (table name : String)
  | createSequence (name : String) (start increment : Int64)
  | dropSequence (name : String)
  | insertRow (table : String) (columns : List String) (values : List Value)
  | updateColumn (table column : String) (value : Value) (condition? : Option String)
  | copyColumn (table source target : String)
  | decodingCopy (table source target : String) (keyColumns : List String)

/-- The texts of all statements that a task comes to. -/
def write (b : Builder) : Task → Except BuildError (List String)
  | .createTable table => List.singleton <$> b.createTable table
  | .dropTable table => List.singleton <$> b.dropTable table
  | .emptyTable table => List.singleton <$> b.emptyTable table
  | .countRows table => List.singleton <$> b.countRows table
  | .addColumn table column => Batch.statements <$> b.addColumn table column
  | .dropColumn table column => List.singleton <$> b.dropColumn table column
  | .renameColumn table oldName column => List.singleton <$> b.renameColumn table oldName column
  | .alterColumn table column current keyColumns =>
    ColumnChange.texts <$> b.alterColumn table column current keyColumns
  | .rebuildColumn table target current suffix keyColumns =>
    Rebuild.texts <$> b.rebuildColumn table target current suffix keyColumns
  | .charArrayDetour table column => Rebuild.texts <$> b.charArrayDetour table column
  | .setNullable table column typeName? nullable =>
    List.singleton <$> b.setNullable table column typeName? nullable
  | .setDefault table column value => List.singleton <$> b.setDefault table column value
  | .addConstraint c => List.singleton <$> b.addConstraint c
  | .dropForeignKey table name => List.singleton <$> b.dropForeignKey table name
  | .dropUnique table name => List.singleton <$> b.dropUnique table name
  | .dropPrimaryKey table name => List.singleton <$> b.dropPrimaryKey table name
  | .constraintNames table catalog? => (fun s => [s.sql]) <$> b.constraintNames table catalog?
  | .createIndex table name columns unique =>
    List.singleton <$> b.createIndex table name columns unique
  | .dropIndex table name => List.singleton <$> b.dropIndex table name
  | .createSequence name start increment =>
    List.singleton <$> b.createSequence name start increment
  | .dropSequence name => List.singleton <$> b.dropSequence name
  | .insertRow table columns values => (fun s => [s.sql]) <$> b.insertRow table columns values
  | .updateColumn table column value condition? =>
    (fun s => [s.sql]) <$> b.updateColumn table column value condition?
  | .copyColumn table source target => List.singleton <$> b.copyColumn table source target
  | .decodingCopy table source target keyColumns =>
    Copy.texts <$> b.decodingCopy table source target keyColumns

/-- The texts of a task that are written as the caller has them: a condition, and a column's type where
    the dialect states it anew. -/
def Task.raw (d : Dialect) : Task → List String
  | .updateColumn _ _ _ condition? =>
    condition?.toList.map fun text => String.ofList (Text.trim text.toList)
  | .setNullable _ _ typeName? _ => if d = .mySql then typeName?.toList else []
  | _ => []

end Builder

end SchemaChange
