import SchemaChange.Editor.Basic

/-!
# Changes of constraints

A constraint is added unless it is there already and dropped only if it is. Primary keys are looked
for by table, unique constraints by name, foreign keys by their pairs of columns when they are added
and by name when they are dropped.
-/

namespace SchemaChange.Editor

variable (e : Editor)

/-- Adds a primary key if the table has none and has all the columns. -/
def addPrimaryKey (table name : String) (columns : List String) (ignoring : Bool) :
    Operation Outcome := do
  let sql ← e.build (·.addConstraint { table, name, columns, kind := .primaryKey })
  let keyed ← e.inspector.hasPrimaryKey table none
  if keyed then return .skipped
  let found ← e.inspector.columnsExist table columns
  runUnless (!found) sql ignoring

/-- Adds a unique constraint unless the table has a constraint of that name. -/
def addUnique (table name : String) (columns : List String) (ignoring : Bool) :
    Operation Outcome := do
  let sql ← e.build (·.addConstraint { table, name, columns, kind := .unique })
  let found ← e.inspector.hasConstraint table name
  runUnless found sql ignoring

/-- Adds a foreign key unless the table refers to the same columns already. -/
def addForeignKey (c : ConstraintSpec) (ignoring : Bool) : Operation Outcome :=
  match c.kind with
  | .foreignKey referencedTable referencedColumns _ => do
    let sql ← e.build (·.addConstraint c)
    let found ← e.inspector.hasForeignKey c.table referencedTable c.columns referencedColumns
    runUnless found sql ignoring
  | _ => throw (.build (.constraintKindMismatch c.name "foreign key"))

/-- Adds a constraint of any kind. -/
def addConstraint (c : ConstraintSpec) (ignoring : Bool) : Operation Outcome :=
  match c.kind with
  | .primaryKey => e.addPrimaryKey c.table c.name c.columns ignoring
  | .unique => e.addUnique c.table c.name c.columns ignoring
  | .foreignKey .. => e.addForeignKey c ignoring

/-- Drops a foreign key if the table declares one of that name. -/
def dropForeignKey (table name : String) (ignoring : Bool) : Operation Outcome := do
  let sql ← e.build (·.dropForeignKey table name)
  let found ← e.inspector.hasForeignKeyNamed table name
  runUnless (!found) sql ignoring

/-- Drops a unique constraint if the table has a constraint of that name. -/
def dropUnique (table name : String) (ignoring : Bool) : Operation Outcome := do
  let sql ← e.build (·.dropUnique table name)
  let found ← e.inspector.hasConstraint table name
  runUnless (!found) sql ignoring

/-- Drops the primary key of a table, if it has one, or only if that covers a column. -/
def dropPrimaryKey (table name : String) (column? : Option String) (ignoring : Bool) :
    Operation Outcome := do
  let sql ← e.build (·.dropPrimaryKey table name)
  let found ← e.inspector.hasPrimaryKey table column?
  runUnless (!found) sql ignoring

end SchemaChange.Editor
