import SchemaChange.Text.Basic

/-!
# Types of stored columns

A column of a database has a declared type such as `VARCHAR2(255)` or `bigint`, in the words of the
product. `SqlType.ofDeclared` classifies it by its leading word, in any case and whatever length,
precision or modifier follows.
-/

namespace SchemaChange

/-- The class of a declared column type. -/
inductive SqlType where
  | char | varchar | longVarchar | clob
  | binary | varbinary | blob
  | smallInt | integer | bigInt | decimal | double
  | boolean
  | date | time | timestamp
  | other
  deriving DecidableEq, Repr, Inhabited

/-- The class of values a column is read as. -/
inductive ValueKind where
  | text | bytes | integer | long | decimal | double | boolean | timestamp | other
  deriving DecidableEq, Repr

namespace SqlType

/-- The class of a leading word in capitals. -/
def ofWord : String → SqlType
  | "CHAR" | "CHARACTER" | "NCHAR" | "BPCHAR" => char
  | "VARCHAR" | "VARCHAR2" | "NVARCHAR" | "NVARCHAR2" | "VARYING" => varchar
  | "LONG" | "LONGVARCHAR" | "MEDIUMTEXT" => longVarchar
  | "CLOB" | "NCLOB" | "TEXT" | "LONGTEXT" | "TINYTEXT" => clob
  | "BINARY" => binary
  | "VARBINARY" | "RAW" => varbinary
  | "BLOB" | "LONGBLOB" | "MEDIUMBLOB" | "TINYBLOB" | "BYTEA" | "IMAGE" => blob
  | "SMALLINT" | "TINYINT" | "INT2" => smallInt
  | "INTEGER" | "INT" | "INT4" | "MEDIUMINT" => integer
  | "BIGINT" | "INT8" => bigInt
  | "NUMBER" | "NUMERIC" | "DECIMAL" => decimal
  | "DOUBLE" | "FLOAT" | "REAL" | "FLOAT8" | "FLOAT4" => double
  | "BOOLEAN" | "BOOL" | "BIT" => boolean
  | "DATE" => date
  | "TIME" => time
  | "TIMESTAMP" | "DATETIME" | "TIMESTAMPTZ" => timestamp
  | _ => other

/-- The characters of a type's leading word: all up to a bracket or a blank. -/
def leadingWord (s : List Char) : List Char :=
  s.takeWhile fun c => c != '(' && !Text.isBlank c

/-- The class of a declared type. `CHARACTER VARYING` is the one class of two words. -/
def ofDeclared (declared : String) : SqlType :=
  let s := Text.asciiUpper (Text.trim declared.toList)
  if "CHARACTER VARYING".toList.isPrefixOf s then varchar
  else ofWord (String.ofList (leadingWord s))

/-- Whether the type holds bytes. -/
def isBinary : SqlType → Bool
  | binary | varbinary | blob => true
  | _ => false

/-- Whether the type holds text. -/
def isText : SqlType → Bool
  | char | varchar | longVarchar | clob => true
  | _ => false

/-- The class of values a column of the type is read as. -/
def valueKind : SqlType → ValueKind
  | char | varchar | longVarchar | clob => .text
  | binary | varbinary | blob => .bytes
  | smallInt | integer => .integer
  | bigInt => .long
  | decimal => .decimal
  | double => .double
  | boolean => .boolean
  | date | time | timestamp => .timestamp
  | other => .other

/-- The name of the class. -/
def name : SqlType → String
  | char => "Char"
  | varchar => "Varchar"
  | longVarchar => "LongVarchar"
  | clob => "Clob"
  | binary => "Binary"
  | varbinary => "Varbinary"
  | blob => "Blob"
  | smallInt => "SmallInt"
  | integer => "Integer"
  | bigInt => "BigInt"
  | decimal => "Decimal"
  | double => "Double"
  | boolean => "Boolean"
  | date => "Date"
  | time => "Time"
  | timestamp => "Timestamp"
  | other => "Other"

/-- All classes. -/
def all : List SqlType :=
  [char, varchar, longVarchar, clob, binary, varbinary, blob, smallInt, integer, bigInt, decimal,
    double, boolean, date, time, timestamp, other]

end SqlType

namespace ValueKind

/-- The name of the class. -/
def name : ValueKind → String
  | text => "Text"
  | bytes => "Bytes"
  | integer => "Integer"
  | long => "Long"
  | decimal => "Decimal"
  | double => "Double"
  | boolean => "Boolean"
  | timestamp => "Timestamp"
  | other => "Other"

/-- All classes. -/
def all : List ValueKind :=
  [text, bytes, integer, long, decimal, double, boolean, timestamp, other]

end ValueKind

end SchemaChange
