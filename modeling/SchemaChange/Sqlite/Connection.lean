import SchemaChange.Config
import SchemaChange.Connection.Dialogue
import SchemaChange.Sqlite.Catalog
import SchemaChange.Sqlite.Cell

/-!
# Connections to SQLite

A connection answers look-ups from the declared schema and hands statements to an engine, which is a
parameter here. A closed connection stays closed: it runs nothing and looks nothing up, and only the
questions that need no database are still answered.
-/

namespace SchemaChange.Sqlite

/-! ## Where the database is

The URL of a configuration names a file or `:memory:`, bare or after `jdbc:`, `sqlite:` and `//`,
each of which may be there.
-/

/-- The text without a given beginning, if it has it. -/
def withoutStart (start : String) (s : List Char) : List Char :=
  (start.toList.isPrefixOf? s).getD s

/-- The path that a URL names. -/
def path (url : String) : Except DatabaseError String :=
  let url := Text.trim url.toList
  let path := withoutStart "//" (withoutStart "sqlite:" (withoutStart "jdbc:" url))
  if path.isEmpty then
    .error (.configuration ("SQLite URL '" ++ String.ofList url ++ "' does not name a database"))
  else .ok (String.ofList path)

/-- How long to wait for a locked database, in milliseconds, if the configuration says so. -/
def busyTimeout? (config : ConnectionConfig) : Except DatabaseError (Option UInt64) :=
  match Dictionary.get? config.params "busy_timeout_ms" with
  | none => .ok none
  | some text =>
    match Number.readUInt64? text.toList with
    | some n => .ok (some n)
    | none => .error (.configuration ("busy_timeout_ms must be a number, got '" ++ text ++ "'"))

/-! ## Sessions -/

/-- What runs statements on data `δ`. -/
structure Engine (δ : Type) where
  /-- The schema that the data have. -/
  schema : δ → Schema
  /-- Runs a statement: the rows affected, or why it was rejected. -/
  execute : δ → String → List Cell → Except String Nat × δ
  /-- Runs a query: the columns, by name and declared type, and the rows. -/
  query : δ → String → List Cell → Except String (List (String × String) × List (List Cell)) × δ

/-- A connection: its data, and whether it has been closed. -/
structure Session (δ : Type) where
  data : δ
  closed : Bool := false

/-- The name of the driver. -/
def driverName : String := "SQLite"

/-- The short name of the driver. -/
def driverId : String := "sqlite"

/-- What every connection says of itself. -/
def endpoint : Endpoint where
  driverName := driverId
  product := "SQLite"
  hasCatalog := true

/-- The major version of SQLite. -/
def majorVersion : Nat := 3

/-- Opens a connection: the URL has to name a database, and the time to wait has to be a number. -/
def openConnection (config : ConnectionConfig) : Except DatabaseError Endpoint := do
  let _ ← path config.url
  let _ ← busyTimeout? config
  return endpoint

/-- The rows of a query, with the names of their columns. -/
def resultOf (columns : List (String × String)) (rows : List (List Cell)) : QueryResult where
  columns := columns.map fun (name, declared) => ResultColumn.ofDeclared name declared
  rows := rows.map fun cells => ⟨columns.map (·.1), cells.map Cell.toValue⟩

variable {δ : Type}

/-- What an open connection does; a closed one refuses. -/
def Session.whileOpen {α : Type} (s : Session δ) (act : Except DatabaseError α × Session δ) :
    Except DatabaseError α × Session δ :=
  if s.closed then (.error (.connection "connection is closed"), s) else act

/-- The answers of a connection. -/
def answer (engine : Engine δ) (s : Session δ) : (r : Request) → r.Reply × Session δ
  | .connect config => (openConnection config, s)
  | .execute sql params =>
    s.whileOpen <|
      let (result, data) := engine.execute s.data sql (params.map Cell.ofValue)
      (result.mapError (.execution sql), { s with data })
  | .query sql params =>
    s.whileOpen <|
      let (result, data) := engine.query s.data sql (params.map Cell.ofValue)
      ((result.map fun (columns, rows) => resultOf columns rows).mapError (.execution sql),
        { s with data })
  | .currentCatalog => (.ok (some "main"), s)
  | .identifierCase => (.ok .verbatim, s)
  | .listTables table? => s.whileOpen (.ok ((engine.schema s.data).relations table?), s)
  | .getColumns table? column? =>
    s.whileOpen (.ok ((engine.schema s.data).columns table? column?), s)
  | .getPrimaryKeys table? => s.whileOpen (.ok ((engine.schema s.data).primaryKeys table?), s)
  | .getImportedKeys table? => s.whileOpen (.ok ((engine.schema s.data).importedKeys table?), s)
  | .getCrossReference parent? foreign? =>
    s.whileOpen (.ok ((engine.schema s.data).crossReference parent? foreign?), s)
  | .getIndexes table? => s.whileOpen (.ok ((engine.schema s.data).indexInfos table?), s)
  | .close => (.ok (), { s with closed := true })

/-- A connection to a database that an engine runs. -/
def connection (engine : Engine δ) : Connection (Session δ) where
  answer := answer engine

/-- An engine that runs no statement over a schema that does not change. -/
def declaredOnly : Engine Schema where
  schema := id
  execute schema _ _ := (.error "statements are not run", schema)
  query schema _ _ := (.error "statements are not run", schema)

end SchemaChange.Sqlite
