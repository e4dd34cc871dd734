import SchemaChange.Connection.Dialogue
import SchemaChange.Text.Basic

/-!
# Scripted connections

A connection whose catalog and answers are written down beforehand, and which can be told to fail:
at certain requests, with a certain error, after having answered a number of them. It shows how an
operation behaves towards a database without having one.
-/

namespace SchemaChange

namespace Scripted

/-- A table or view: the name, type and nullability of its columns. -/
structure Table where
  name : String
  isView : Bool := false
  columns : List (String × String × Bool) := []

/-- What comes back for a query whose text contains a given piece. -/
structure Answer where
  contains : String := ""
  columns : List String := []
  /-- The declared type of all columns. -/
  declared : String := ""
  rows : List (List Value) := []

/-- The kinds of errors a connection can be told to fail with. -/
inductive FaultKind where
  | connection | execution | metadata | configuration | notSupported | file
  deriving DecidableEq, Repr

/-- A failure at certain requests. -/
structure Fault where
  /-- The name of the requests. -/
  on : String
  /-- What the text of their statement contains. -/
  contains : String := ""
  kind : FaultKind
  reason : String := "rejected"
  /-- How many requests are answered before the first one fails. -/
  after : Nat := 0
  /-- How many requests there have been. -/
  hits : Nat := 0

end Scripted

open Scripted in
/-- The state of a scripted connection. -/
structure Scripted where
  product : String := "Generic"
  caseRule : CaseRule := .verbatim
  catalog? : Option String := none
  affected : Nat := 1
  hasCatalog : Bool := true
  /-- Whether filters tell ASCII capitals from small letters. -/
  exact : Bool := false
  tables : List Table := []
  primaryKeys : List PrimaryKeyColumn := []
  foreignKeys : List ForeignKeyColumn := []
  indexes : List IndexInfo := []
  answers : List Answer := []
  faults : List Fault := []

/-- The name of a request. -/
def Request.name : Request → String
  | connect _ => "connect"
  | execute _ _ => "execute"
  | query _ _ => "query"
  | currentCatalog => "current_catalog"
  | identifierCase => "identifier_case"
  | listTables _ => "list_tables"
  | getColumns _ _ => "get_columns"
  | getPrimaryKeys _ => "get_primary_keys"
  | getImportedKeys _ => "get_imported_keys"
  | getCrossReference _ _ => "get_cross_reference"
  | getIndexes _ => "get_indexes"
  | close => "close"

namespace Scripted

/-- What the connection says of itself. -/
def endpoint (s : Scripted) : Endpoint where
  driverName := "fake"
  product := s.product
  hasCatalog := s.hasCatalog

/-- Whether a fault is about a request. -/
def Fault.applies (f : Fault) (r : Request) : Bool :=
  f.on == r.name && Text.occursIn f.contains.toList (r.sql?.getD "").toList

/-- The error of a fault. -/
def Fault.error (f : Fault) (r : Request) : DatabaseError :=
  match f.kind with
  | .connection => .connection f.reason
  | .execution => .execution (r.sql?.getD r.name) f.reason
  | .metadata => .metadata f.reason
  | .configuration => .configuration f.reason
  | .notSupported => .notSupported f.reason
  | .file => .file f.reason

/-- The error of the first fault that is due, and the faults with their hits counted. -/
def strike (r : Request) : List Fault → Option DatabaseError × List Fault
  | [] => (none, [])
  | f :: fs =>
    if f.applies r then
      let f := { f with hits := f.hits + 1 }
      if f.after < f.hits then (some (f.error r), f :: fs)
      else
        let (error?, fs) := strike r fs
        (error?, f :: fs)
    else
      let (error?, fs) := strike r fs
      (error?, f :: fs)

/-- Whether a name passes a filter. -/
def passes (s : Scripted) (filter? : Option String) (name : String) : Bool :=
  match filter? with
  | none => true
  | some filter => if s.exact then filter == name else Text.sameName filter name

/-- The columns of a table. -/
def Table.columnInfos (t : Table) : List ColumnInfo :=
  t.columns.zipIdx.map fun ((name, declared, nullable), i) =>
    { table := t.name
      name
      ordinal := i + 1
      declared
      sqlType := SqlType.ofDeclared declared
      nullable
      default? := none
      maxLength? := none }

/-- What comes back for a query: the first answer whose piece its text contains. -/
def queryResult (s : Scripted) (sql : String) : QueryResult :=
  match s.answers.find? fun a => Text.occursIn a.contains.toList sql.toList with
  | none => { columns := [], rows := [] }
  | some a =>
    { columns := a.columns.map (ResultColumn.ofDeclared · a.declared)
      rows := a.rows.map fun values => ⟨a.columns, values⟩ }

/-- The answer to a request that does not fail. -/
def reply (s : Scripted) : (r : Request) → r.Answer
  | .connect _ => s.endpoint
  | .execute _ _ => s.affected
  | .query sql _ => s.queryResult sql
  | .currentCatalog => s.catalog?
  | .identifierCase => s.caseRule
  | .listTables table? =>
    (s.tables.filter (s.passes table? ·.name)).map fun t =>
      ⟨t.name, if t.isView then .view else .table⟩
  | .getColumns table? column? =>
    (s.tables.filter (s.passes table? ·.name)).flatMap fun t =>
      t.columnInfos.filter (s.passes column? ·.name)
  | .getPrimaryKeys table? => s.primaryKeys.filter (s.passes table? ·.table)
  | .getImportedKeys table? => s.foreignKeys.filter (s.passes table? ·.table)
  | .getCrossReference parent? foreign? =>
    s.foreignKeys.filter fun k =>
      s.passes parent? k.referencedTable && s.passes foreign? k.table
  | .getIndexes table? => s.indexes.filter (s.passes table? ·.table)
  | .close => ()

/-- The scripted connection. -/
def connection : Connection Scripted where
  answer s r :=
    let (error?, faults) := strike r s.faults
    let next := { s with faults }
    match error? with
    | some e => (.error e, next)
    | none => (.ok (s.reply r), next)

end Scripted

end SchemaChange
