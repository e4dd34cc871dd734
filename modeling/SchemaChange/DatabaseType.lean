import SchemaChange.Text.Basic

/-!
# Declared database types

The kind of database that a configuration declares, or that the scheme of its URL tells.
-/

namespace SchemaChange

/-- A declared kind of database. -/
inductive DatabaseType where
  | oracle | mySql | postgres | derby | unknown
  deriving DecidableEq, Repr

namespace DatabaseType

/-- The spelling that configurations use. -/
def id : DatabaseType → String
  | oracle => "oracle"
  | mySql => "mysql"
  | postgres => "postgres"
  | derby => "derby"
  | unknown => "unknown"

/-- The name of the type. -/
def name : DatabaseType → String
  | oracle => "Oracle"
  | mySql => "MySql"
  | postgres => "Postgres"
  | derby => "Derby"
  | unknown => "Unknown"

/-- The spelling by which a declared type is looked up: small letters without surrounding blanks. -/
def key (text : String) : String :=
  String.ofList (Text.asciiLower (Text.trim text.toList))

/-- The type that a text declares; nothing written is the unknown type. -/
def read? (text : String) : Option DatabaseType :=
  match key text with
  | "oracle" => some oracle
  | "mysql" | "mariadb" => some mySql
  | "postgres" | "postgresql" => some postgres
  | "derby" => some derby
  | "unknown" | "" => some unknown
  | _ => none

end DatabaseType

end SchemaChange
