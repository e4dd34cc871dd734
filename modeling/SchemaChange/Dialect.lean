import SchemaChange.CaseRule
import SchemaChange.DatabaseType
import SchemaChange.Text.Basic

/-!
# Dialects

What differs between database products, each difference as one function of the dialect: the native
names of column types, the quoting and folding of names, the marks for bound values, and what
statements are understood.
-/

namespace SchemaChange

/-- A dialect of SQL; `generic` is the standard without a vendor's additions. -/
inductive Dialect where
  | oracle | mySql | postgres | derby | generic
  deriving DecidableEq, Repr

/-- The column types that schemas are described with. -/
inductive ColumnType where
  /-- Text of bounded length. -/
  | string
  | integer | long | boolean | timestamp | blob | clob
  /-- Text without a practical bound. -/
  | charArray
  deriving DecidableEq, Repr

namespace ColumnType

/-- Whether a column of the type has to state its length. -/
def requiresLength : ColumnType → Bool
  | string => true
  | _ => false

/-- Whether the type holds bytes. -/
def isBinary : ColumnType → Bool
  | blob => true
  | _ => false

/-- The name of the type. -/
def name : ColumnType → String
  | string => "String"
  | integer => "Integer"
  | long => "Long"
  | boolean => "Boolean"
  | timestamp => "Timestamp"
  | blob => "Blob"
  | clob => "Clob"
  | charArray => "CharArray"

/-- All types. -/
def all : List ColumnType :=
  [string, integer, long, boolean, timestamp, blob, clob, charArray]

end ColumnType

namespace Dialect

/-- All dialects. -/
def all : List Dialect :=
  [oracle, mySql, postgres, derby, generic]

/-- The dialect of a product, by the well-known names in the product's name, in any case. -/
def ofProduct (product : String) : Dialect :=
  let s := Text.asciiLower product.toList
  let mentions (word : String) : Bool := Text.occursIn word.toList s
  if mentions "oracle" then oracle
  else if mentions "mysql" || mentions "mariadb" then mySql
  else if mentions "postgres" || mentions "enterprisedb" then postgres
  else if mentions "derby" then derby
  else generic

/-- The dialect of a declared database type. -/
def ofDatabaseType : DatabaseType → Dialect
  | .oracle => oracle
  | .mySql => mySql
  | .postgres => postgres
  | .derby => derby
  | .unknown => generic

/-- The short name of the dialect. -/
def id : Dialect → String
  | oracle => "oracle"
  | mySql => "mysql"
  | postgres => "postgres"
  | derby => "derby"
  | generic => "generic"

/-- The name of the dialect in records. -/
def name : Dialect → String
  | oracle => "Oracle"
  | mySql => "MySql"
  | postgres => "Postgres"
  | derby => "Derby"
  | generic => "Generic"

/-- The name of the dialect for people. -/
def display : Dialect → String
  | oracle => "Oracle"
  | mySql => "MySQL"
  | postgres => "PostgreSQL"
  | derby => "Apache Derby"
  | generic => "Generic SQL"

/-- The native name of a text type with a length. -/
def textType (d : Dialect) (length : UInt32) : String :=
  (if d = oracle then "VARCHAR2(" else "VARCHAR(") ++ length.toNat.repr ++ ")"

/-- The native name of a column type. There is none for text without its length, nor where the dialect
    knows no such type. -/
def nativeType? (d : Dialect) (type : ColumnType) (length : Option UInt32) : Option String :=
  match type with
  | .string => length.map d.textType
  | .integer => some (if d = oracle then "NUMBER(10)" else "INTEGER")
  | .long => some (if d = oracle then "NUMBER(19)" else "BIGINT")
  | .boolean =>
    some (match d with
      | oracle => "NUMBER(1)"
      | mySql => "TINYINT(1)"
      | derby => "SMALLINT"
      | postgres | generic => "BOOLEAN")
  | .timestamp => some "TIMESTAMP"
  | .blob =>
    some (match d with
      | mySql => "LONGBLOB"
      | postgres => "BYTEA"
      | oracle | derby | generic => "BLOB")
  | .clob =>
    some (match d with
      | mySql => "LONGTEXT"
      | postgres => "TEXT"
      | oracle | derby | generic => "CLOB")
  | .charArray =>
    match d with
    | mySql => some "LONGTEXT"
    | postgres => some "TEXT"
    | oracle | derby => some "CLOB"
    | generic => none

/-- The character names are quoted with. -/
def quoteChar : Dialect → Char
  | mySql => '\x60'
  | _ => '"'

/-- A quoted name. -/
def quote (d : Dialect) (name : String) : String :=
  String.ofList (Text.quoted d.quoteChar name.toList)

/-- How names that are not quoted are folded, as far as the product alone tells. -/
def caseRule : Dialect → CaseRule
  | oracle | derby => .upper
  | postgres => .lower
  | mySql | generic => .verbatim

/-- Whether a column's type can be changed in place. -/
def changesColumnTypes : Dialect → Bool
  | oracle | mySql | postgres => true
  | derby | generic => false

/-- Whether there are sequences. -/
def hasSequences : Dialect → Bool
  | mySql => false
  | _ => true

/-- Whether large objects may be compared by `=`. -/
def comparesLobs : Dialect → Bool
  | oracle | derby => false
  | _ => true

/-- Whether a primary key is dropped by its name, and not as the one key of its table. -/
def dropsPrimaryKeyByName : Dialect → Bool
  | postgres | generic => true
  | _ => false

/-- The mark for a bound value, counted from one. -/
def placeholder (d : Dialect) (i : Nat) : String :=
  match d with
  | postgres => "$" ++ i.repr
  | oracle => ":" ++ i.repr
  | _ => "?"

end Dialect

end SchemaChange
