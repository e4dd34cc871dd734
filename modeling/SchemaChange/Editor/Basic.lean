import SchemaChange.Build.Batch
import SchemaChange.Inspector

/-!
# The editor

An editor changes the schema behind one connection, in the words of no particular dialect. A change
that the schema already shows is skipped, and nothing is sent before the whole request has been
turned into statements.

Most changes can be told to ignore failures. Then a statement that the database rejects is no error
of the operation but one of its outcomes. Malformed requests, failed look-ups and a lost connection
are errors all the same.
-/

namespace SchemaChange

/-- What a change came to. -/
inductive Outcome where
  /-- The statements ran. -/
  | applied
  /-- The schema was already in the requested state. -/
  | skipped
  /-- A statement was rejected, and that was ignored. -/
  | failureIgnored
  /-- A column was rebuilt with its new type, but not all of its attributes came back. -/
  | appliedWithoutAttributes
  deriving DecidableEq, Repr

/-- Whether the requested change took effect. -/
def Outcome.isApplied : Outcome → Bool
  | applied | appliedWithoutAttributes => true
  | skipped | failureIgnored => false

/-- Changes the schema behind one connection. -/
structure Editor where
  inspector : Inspector
  config : ConnectionConfig
  /-- The name of the driver that the connection was opened through. -/
  driver? : Option String := none

namespace Editor

/-- The error of opening a connection: whatever it is, it is a connection error. -/
def openingError (driver : String) : DatabaseError → DatabaseError
  | .connection reason => .connection reason
  | e => .connection (driver ++ ": " ++ e.message)

/-- An editor over an established connection. The dialect is that of the product that the connection
    reports. -/
def ofEndpoint (endpoint : Endpoint) (config : ConnectionConfig) : Editor where
  inspector := { endpoint, dialect := Dialect.ofProduct endpoint.product }
  config := config

/-- Opens a connection through a driver. -/
def connect (driver : String) (config : ConnectionConfig) : Dialogue (Except Failure Editor) :=
  match config.validate with
  | .error e => .done (.error (.database e))
  | .ok () =>
    .ask (.connect config) fun
      | .ok endpoint => .done (.ok { ofEndpoint endpoint config with driver? := some driver })
      | .error e => .done (.error (.database (openingError driver e)))

variable (e : Editor)

/-- The editor with other options for its builder. -/
def withOptions (options : BuilderOptions) : Editor :=
  { e with inspector := { e.inspector with options } }

/-- The dialect of the connection. -/
def dialect : Dialect :=
  e.inspector.dialect

/-- A name in quotes. -/
def quoteName (name : String) : String :=
  e.dialect.quote name

/-- Opens a second connection of the same configuration. -/
def newConnection : Operation Endpoint := do
  match e.driver? with
  | none => throw (.database (.connection "accessor was not opened through a driver"))
  | some driver =>
    match ← Operation.attempt (.connect e.config) with
    | .ok endpoint => return endpoint
    | .error error => throw (.database (openingError driver error))

/-- Closes the connection. -/
def close : Operation Unit :=
  Operation.request .close

/-- Runs a statement; nothing comes back if it was rejected and that is ignored. -/
def execute (sql : String) (params : List Value) (ignoring : Bool) : Operation (Option Nat) := do
  match ← Operation.attempt (.execute sql params) with
  | .ok affected => return some affected
  | .error error =>
    if ignoring && error.isExecution then return none else throw (.database error)

/-- Runs a statement of a change. -/
def run (sql : String) (ignoring : Bool) : Operation Outcome := do
  match ← execute sql [] ignoring with
  | some _ => return .applied
  | none => return .failureIgnored

/-- Runs the statements of a change in order, up to the first one whose rejection is ignored. -/
def runAll (ignoring : Bool) : List String → Operation Outcome
  | [] => return .applied
  | sql :: rest => do
    match ← run sql ignoring with
    | .failureIgnored => return .failureIgnored
    | _ => runAll ignoring rest

/-- Runs a statement unless the schema shows that there is nothing to do. -/
def runUnless (done : Bool) (sql : String) (ignoring : Bool) : Operation Outcome :=
  if done then return .skipped else run sql ignoring

/-- A statement that the builder makes with the case rule of the database. -/
def build {α : Type} (make : Builder → Except BuildError α) : Operation α := do
  let builder ← e.inspector.builder
  Operation.built (make builder)

/-! ## Statements as the caller writes them -/

/-- Runs a statement and counts the rows it affects; none if it was rejected and that is ignored. -/
def executeUpdate (sql : String) (ignoring : Bool) : Operation Nat := do
  return (← execute sql [] ignoring).getD 0

/-- Runs a statement. -/
def executeStatement (sql : String) (ignoring : Bool) : Operation Outcome :=
  run sql ignoring

/-- Runs a statement if the table has the column. -/
def executeIfColumn (sql table column : String) (ignoring : Bool) : Operation Outcome := do
  let found ← e.inspector.columnExists table column
  runUnless (!found) sql ignoring

/-- Runs a query. -/
def executeSelect (sql : String) : Operation QueryResult :=
  Operation.request (.query sql [])

end Editor

end SchemaChange
