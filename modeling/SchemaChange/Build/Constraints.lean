import SchemaChange.Build.Batch
import SchemaChange.Build.Builder
import SchemaChange.Spec

/-!
# Statements on constraints
-/

namespace SchemaChange.Builder

variable (b : Builder)

/-- What a constraint states about its rendered columns. -/
def constraintBody (c : ConstraintSpec) (columns : String) : Except BuildError String :=
  match c.kind with
  | .primaryKey => return "PRIMARY KEY (" ++ columns ++ ")"
  | .unique => return "UNIQUE (" ++ columns ++ ")"
  | .foreignKey referencedTable referencedColumns cascade => do
    let table ← b.ident referencedTable
    let references ← b.identList c.name referencedColumns
    return "FOREIGN KEY (" ++ columns ++ ") REFERENCES " ++ table ++ " (" ++ references ++ ")" ++
      (if cascade then " ON DELETE CASCADE" else "")

/-- Adds a constraint to its table. -/
def addConstraint (c : ConstraintSpec) : Except BuildError String := do
  c.validate
  let columns ← b.identList c.name c.columns
  let body ← b.constraintBody c columns
  let table ← b.ident c.table
  let name ← b.ident c.name
  return "ALTER TABLE " ++ table ++ " ADD CONSTRAINT " ++ name ++ " " ++ body

/-- Drops a named part of a table. -/
def dropNamed (keyword table name : String) : Except BuildError String := do
  let tableName ← b.ident table
  let constraint ← b.ident name
  return "ALTER TABLE " ++ tableName ++ " DROP " ++ keyword ++ " " ++ constraint

/-- Drops a foreign key. -/
def dropForeignKey (table name : String) : Except BuildError String :=
  b.dropNamed (if b.dialect = .mySql then "FOREIGN KEY" else "CONSTRAINT") table name

/-- Drops a unique constraint. -/
def dropUnique (table name : String) : Except BuildError String :=
  b.dropNamed (if b.dialect = .mySql then "INDEX" else "CONSTRAINT") table name

/-- Drops the primary key of a table. Where the dialect drops the one key there is, the name is not
    looked at. -/
def dropPrimaryKey (table name : String) : Except BuildError String :=
  if b.dialect.dropsPrimaryKeyByName then b.dropNamed "CONSTRAINT" table name
  else return "ALTER TABLE " ++ (← b.ident table) ++ " DROP PRIMARY KEY"

/-- Lists the names of a table's constraints in a column `CONSTRAINT_NAME`. The catalog, if there is one,
    narrows the list where the views of the database span several. -/
def constraintNames (table : String) (catalog? : Option String) : Except BuildError Statement :=
  if Text.isBlankText table then .error (.invalidIdentifier table)
  else
    let folded := Value.text (b.caseRule.apply table)
    let first := b.dialect.placeholder 1
    let second := b.dialect.placeholder 2
    .ok <| match b.dialect, catalog? with
    | .oracle, _ =>
      ⟨"SELECT CONSTRAINT_NAME FROM USER_CONSTRAINTS WHERE TABLE_NAME = " ++ first, [folded]⟩
    | .derby, _ =>
      ⟨"SELECT c.CONSTRAINTNAME AS CONSTRAINT_NAME FROM SYS.SYSCONSTRAINTS c " ++
        "JOIN SYS.SYSTABLES t ON c.TABLEID = t.TABLEID WHERE t.TABLENAME = " ++ first, [folded]⟩
    | .mySql, some catalog =>
      ⟨"SELECT CONSTRAINT_NAME FROM information_schema.TABLE_CONSTRAINTS " ++
        "WHERE TABLE_SCHEMA = " ++ first ++ " AND UPPER(TABLE_NAME) = UPPER(" ++ second ++ ")",
        [.text catalog, folded]⟩
    | .mySql, none =>
      ⟨"SELECT CONSTRAINT_NAME FROM information_schema.TABLE_CONSTRAINTS " ++
        "WHERE TABLE_SCHEMA = DATABASE() AND UPPER(TABLE_NAME) = UPPER(" ++ first ++ ")",
        [folded]⟩
    | .postgres, some catalog | .generic, some catalog =>
      ⟨"SELECT constraint_name AS CONSTRAINT_NAME FROM information_schema.table_constraints " ++
        "WHERE table_catalog = " ++ first ++ " AND UPPER(table_name) = UPPER(" ++ second ++ ")",
        [.text catalog, folded]⟩
    | .postgres, none | .generic, none =>
      ⟨"SELECT constraint_name AS CONSTRAINT_NAME FROM information_schema.table_constraints " ++
        "WHERE UPPER(table_name) = UPPER(" ++ first ++ ")", [folded]⟩

end SchemaChange.Builder
