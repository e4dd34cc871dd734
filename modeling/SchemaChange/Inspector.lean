import SchemaChange.Build.Constraints
import SchemaChange.Build.Tables
import SchemaChange.Connection.Operation
import SchemaChange.Number.Reading

/-!
# The inspector

Questions about a live schema, answered by its catalog. Names are folded as the database stores them
before they are used as filters, and what comes back is compared ignoring the case of ASCII letters.

A look-up that fails is an error, labelled as a metadata error unless the connection is lost. No
question is answered with "absent" because the catalog could not be read.
-/

namespace SchemaChange

/-- What is known of a connection whose schema is inspected. -/
structure Inspector where
  endpoint : Endpoint
  dialect : Dialect
  options : BuilderOptions := {}

namespace Inspector

open Operation (lookUp built)

variable (i : Inspector)

/-- Fails with a metadata error. -/
def missing {α : Type} (reason : String) : Operation α :=
  throw (.database (.metadata reason))

/-- Fails where the connection has no catalog. -/
def requireCatalog : Operation Unit :=
  if i.endpoint.hasCatalog then pure ()
  else missing ("driver '" ++ i.endpoint.driverName ++ "' does not expose a schema catalog")

/-- Looks something up in the catalog, where there is one. -/
def inCatalog (context : String) (r : Request) : Operation r.Answer := do
  i.requireCatalog
  lookUp context r

/-- How the database folds names. A rule in the options comes first; otherwise the database is asked, and
    asked again only if it has not answered yet. -/
def caseRule : Operation CaseRule :=
  match i.options.case? with
  | some rule => return rule
  | none => do
    match ← get with
    | some rule => return rule
    | none =>
      let rule ← i.inCatalog "identifier case lookup failed" .identifierCase
      set (some rule)
      return rule

/-- A builder for the dialect with the case rule of the database. -/
def builder : Operation Builder := do
  let rule ← i.caseRule
  return { dialect := i.dialect, options := { i.options with case? := some rule } }

/-- A name as the database stores it. -/
def fold (name : String) : Operation String := do
  let rule ← i.caseRule
  return rule.apply name

/-- Whether there is a table, and not a view, of the name. -/
def tableExists (table : String) : Operation Bool := do
  let folded ← i.fold table
  let tables ← i.inCatalog ("listing table " ++ table) (.listTables (some folded))
  return tables.any fun t => t.kind == .table && Text.sameName t.name table

/-- The columns of a table, or of all tables. -/
def columns (table? : Option String) : Operation (List ColumnInfo) := do
  let folded? ← match table? with
    | some table => some <$> i.fold table
    | none => pure none
  i.inCatalog ("listing columns of " ++ table?.getD "*") (.getColumns folded? none)

/-- The column of a name, if the table has it. -/
def columnInfo? (table column : String) : Operation (Option ColumnInfo) := do
  let rule ← i.caseRule
  let columns ← i.inCatalog ("reading column " ++ table ++ "." ++ column)
    (.getColumns (some (rule.apply table)) (some (rule.apply column)))
  return columns.find? (Text.sameName ·.name column)

/-- Whether the table has a column of the name. -/
def columnExists (table column : String) : Operation Bool := do
  return (← i.columnInfo? table column).isSome

/-- Whether the table has columns of all the names; here case is ignored in all of Unicode. -/
def columnsExist (table : String) (names : List String) : Operation Bool := do
  let columns ← i.columns (some table)
  return names.all fun name =>
    columns.any fun c => CaseRule.upper.apply c.name == CaseRule.upper.apply name

/-- The column of a name, which has to exist. -/
def requireColumn (table column : String) : Operation ColumnInfo := do
  match ← i.columnInfo? table column with
  | some info => return info
  | none => missing ("column " ++ table ++ "." ++ column ++ " does not exist")

/-- The class of a column's type. -/
def columnSqlType (table column : String) : Operation SqlType := do
  return (← i.requireColumn table column).sqlType

/-- Whether a column may be NULL. -/
def isColumnNullable (table column : String) : Operation Bool := do
  return (← i.requireColumn table column).nullable

/-- The class of values a column is read as. -/
def columnValueKind (table column : String) : Operation ValueKind := do
  return (← i.columnSqlType table column).valueKind

/-- The columns of a table's primary key in the order of the key. -/
def primaryKeyColumns (table : String) : Operation (List String) := do
  let folded ← i.fold table
  let keys ← i.inCatalog ("reading primary key of " ++ table) (.getPrimaryKeys (some folded))
  return (keys.mergeSort fun a b => a.position ≤ b.position).map (·.column)

/-- Whether a table has a primary key, or one that covers a column. -/
def hasPrimaryKey (table : String) (column? : Option String) : Operation Bool := do
  let keys ← i.primaryKeyColumns table
  return match column? with
    | some column => keys.any (Text.sameName · column)
    | none => !keys.isEmpty

/-- The foreign keys that a table declares. -/
def importedForeignKeys (table : String) : Operation (List ForeignKeyColumn) := do
  let folded ← i.fold table
  i.inCatalog ("reading foreign keys of " ++ table) (.getImportedKeys (some folded))

/-- Whether a table declares a foreign key of the name. -/
def hasForeignKeyNamed (table name : String) : Operation Bool := do
  let keys ← i.importedForeignKeys table
  return keys.any fun k => k.constraint?.any (Text.sameName · name)

/-- Takes the pairs of a catalog one after the other from two lists of columns. A pair is taken only when
    its two columns stand at the same position; any other pair leaves the lists as they are. -/
def takePairs : List ForeignKeyColumn → List String → List String → List String × List String
  | [], columns, references => (columns, references)
  | pair :: pairs, columns, references =>
    match columns.findIdx? (Text.sameName · pair.column),
        references.findIdx? (Text.sameName · pair.referencedColumn) with
    | some m, some n =>
      if m = n then takePairs pairs (columns.eraseIdx m) (references.eraseIdx n)
      else takePairs pairs columns references
    | _, _ => takePairs pairs columns references

/-- Whether the pairs of a catalog, in any order, are those of two lists of columns, position by
    position. -/
def pairsCover (pairs : List ForeignKeyColumn) (columns references : List String) : Bool :=
  let (columns, references) := takePairs pairs columns references
  !pairs.isEmpty && columns.isEmpty && references.isEmpty

/-- Whether a table refers to another one by a foreign key that pairs the given columns by position. -/
def hasForeignKey (table referencedTable : String) (columns references : List String) :
    Operation Bool := do
  let key := table ++ " -> " ++ referencedTable
  if columns.length ≠ references.length then
    throw (.build (.referenceCountMismatch key columns.length references.length))
  if columns.isEmpty then throw (.build (.emptyColumnList key))
  let rule ← i.caseRule
  let pairs ← i.inCatalog ("reading references from " ++ table ++ " to " ++ referencedTable)
    (.getCrossReference (some (rule.apply referencedTable)) (some (rule.apply table)))
  return pairsCover pairs (columns.map rule.apply) (references.map rule.apply)

/-- Whether a row names a constraint. -/
def namesConstraint (name : String) (row : Row) : Bool :=
  ((row.getByName? "CONSTRAINT_NAME").bind Value.asText?).any (Text.sameName · name)

/-- Whether a table has a constraint of the name, by the database's own list of constraints. -/
def hasConstraint (table name : String) : Operation Bool := do
  let builder ← i.builder
  let catalog? ← lookUp "reading current catalog" .currentCatalog
  let statement ← built (builder.constraintNames table catalog?)
  let result ← lookUp ("reading constraints of " ++ table) (.query statement.sql statement.params)
  return result.rows.any (namesConstraint name)

/-- Whether a table has an index of the name. -/
def indexExists (table name : String) : Operation Bool := do
  let folded ← i.fold table
  let indexes ← i.inCatalog ("reading indexes of " ++ table) (.getIndexes (some folded))
  return indexes.any (Text.sameName ·.name name)

/-- The number that a count of rows comes back as. -/
def rowCount? : Value → Option Binary64
  | .float64 x => some x
  | .decimal s | .text s => Binary64.read? (Text.trim s.toList)
  | value => value.asInt64?.map fun n => Binary64.ofInt n.toInt

/-- A value that may be absent, as it is shown in messages. -/
def shownScalar : Option Value → String
  | none => "None"
  | some value => "Some(" ++ value.shown ++ ")"

/-- Whether a table holds a row. -/
def tableHasData (table : String) : Operation Bool := do
  let builder ← i.builder
  let sql ← built (builder.countRows table)
  let result ← lookUp ("counting rows of " ++ table) (.query sql [])
  match result.scalar?.bind rowCount? with
  | some count => return count.isPositive
  | none =>
    missing ("row count of " ++ table ++ " is not a number: " ++ shownScalar result.scalar?)

end Inspector

end SchemaChange
