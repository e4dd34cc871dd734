import SchemaChange.CaseRule
import SchemaChange.Catalog
import SchemaChange.Config
import SchemaChange.QueryResult

/-!
# Requests

What is asked of a database: to open a connection, to run a statement or a query, to look something
up in its catalog, to close. A request has its own type of answer, and every request may be answered
by an error instead.

In a look-up every name is a filter as the database stores names; an absent one matches everything.
-/

namespace SchemaChange

/-- What a connection says of itself. -/
structure Endpoint where
  driverName : String
  /-- The name of the product. -/
  product : String
  /-- Whether there is a catalog to look things up in. -/
  hasCatalog : Bool
  deriving DecidableEq, Repr

/-- One request to a database. -/
inductive Request where
  | connect (config : ConnectionConfig)
  /-- Runs a statement that changes data or the schema. -/
  | execute (sql : String) (params : List Value)
  /-- Runs a statement that returns rows. -/
  | query (sql : String) (params : List Value)
  /-- Asks for the catalog the connection is attached to. -/
  | currentCatalog
  /-- Asks how names that are not quoted are stored. -/
  | identifierCase
  | listTables (table? : Option String)
  | getColumns (table? column? : Option String)
  | getPrimaryKeys (table? : Option String)
  /-- Asks for the foreign keys that a table declares. -/
  | getImportedKeys (table? : Option String)
  /-- Asks for the foreign keys from one table to another. -/
  | getCrossReference (parent? foreign? : Option String)
  | getIndexes (table? : Option String)
  | close
  deriving DecidableEq

namespace Request

/-- The type of the answer to a request. -/
abbrev Answer : Request → Type
  | connect _ => Endpoint
  /- The number of rows affected. -/
  | execute _ _ => Nat
  | query _ _ => QueryResult
  | currentCatalog => Option String
  | identifierCase => CaseRule
  | listTables _ => List TableInfo
  | getColumns _ _ => List ColumnInfo
  | getPrimaryKeys _ => List PrimaryKeyColumn
  | getImportedKeys _ => List ForeignKeyColumn
  | getCrossReference _ _ => List ForeignKeyColumn
  | getIndexes _ => List IndexInfo
  | close => Unit

/-- What comes back for a request: its answer or an error. -/
abbrev Reply (r : Request) : Type :=
  Except DatabaseError r.Answer

/-- The statement of a request, if it has one. -/
def sql? : Request → Option String
  | execute sql _ => some sql
  | query sql _ => some sql
  | _ => none

/-- Whether the request looks something up in the catalog. -/
def isLookup : Request → Bool
  | currentCatalog | identifierCase | listTables _ | getColumns _ _ | getPrimaryKeys _
  | getImportedKeys _ | getCrossReference _ _ | getIndexes _ => true
  | _ => false

end Request

end SchemaChange
