import SchemaChange.Dictionary
import SchemaChange.SqlType
import SchemaChange.Value

/-!
# Results of queries

The rows a query returns. The values of a row are positional; the names of the columns are kept
beside them for look-up, ignoring the case of ASCII letters.
-/

namespace SchemaChange

/-- A row: its values, and the names of the columns they stand in. -/
structure Row where
  columns : List String
  values : List Value
  deriving DecidableEq

/-- The value at a position. -/
def Row.get? (r : Row) (i : Nat) : Option Value :=
  r.values[i]?

/-- The value in the first column of the given name. -/
def Row.getByName? (r : Row) (name : String) : Option Value :=
  (r.columns.findIdx? (Text.sameName · name)).bind r.get?

/-- The values by exact column name; of several columns of one name the last one counts. -/
def Row.toDictionary (r : Row) : Dictionary Value :=
  Dictionary.ofList (r.columns.zip r.values)

/-- A column of a result. -/
structure ResultColumn where
  name : String
  /-- The type as the database declares it. -/
  declared : String
  sqlType : SqlType
  deriving DecidableEq

/-- The result column of a declared type. -/
def ResultColumn.ofDeclared (name declared : String) : ResultColumn :=
  ⟨name, declared, SqlType.ofDeclared declared⟩

/-- What a query returns. -/
structure QueryResult where
  columns : List ResultColumn
  rows : List Row
  deriving DecidableEq

/-- The first value of the first row. -/
def QueryResult.scalar? (q : QueryResult) : Option Value :=
  q.rows.head?.bind (·.get? 0)

end SchemaChange
