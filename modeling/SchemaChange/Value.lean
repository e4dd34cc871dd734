import SchemaChange.Number.Decimal
import SchemaChange.Number.Shortest
import SchemaChange.Text.Basic
import SchemaChange.Text.Utf8
import SchemaChange.Timestamp

/-!
# Values

A value that is bound to a statement or read from a row, and the views that callers take of it.
-/

namespace SchemaChange

/-- A database value. -/
inductive Value where
  | null
  | bool (b : Bool)
  | int32 (n : Int32)
  | int64 (n : Int64)
  | float64 (x : Binary64)
  /-- An exact number, kept as text. -/
  | decimal (text : String)
  | text (s : String)
  | bytes (bs : List UInt8)
  | timestamp (t : Timestamp)
  deriving DecidableEq

namespace Value

/-- Whether the value is the SQL NULL. -/
def isNull : Value → Bool
  | null => true
  | _ => false

/-- The text of a text or an exact number. -/
def asText? : Value → Option String
  | text s => some s
  | decimal s => some s
  | _ => none

/-- The value as a whole number: numbers and truth values as they are, text if it reads as one. -/
def asInt64? : Value → Option Int64
  | int32 n => some n.toInt64
  | int64 n => some n
  | bool b => some (if b then 1 else 0)
  | decimal s | text s => Number.readInt64? (Text.trim s.toList)
  | _ => none

/-- The value as a truth value; whole numbers other than zero are true. -/
def asBool? : Value → Option Bool
  | bool b => some b
  | int32 n => some (n != 0)
  | int64 n => some (n != 0)
  | _ => none

/-- The bytes of a binary value or of a text. -/
def asBytes? : Value → Option (List UInt8)
  | bytes bs => some bs
  | text s => some (Text.utf8 s.toList)
  | _ => none

/-- The decimal text of a whole number. -/
def intText (n : Int) : String :=
  if n < 0 then "-" ++ n.natAbs.repr else n.natAbs.repr

/-- The value as text for people. -/
def display : Value → String
  | null => "NULL"
  | bool b => if b then "true" else "false"
  | int32 n => intText n.toInt
  | int64 n => intText n.toInt
  | float64 x => x.text
  | decimal s => s
  | text s => s
  | bytes bs => "<" ++ bs.length.repr ++ " bytes>"
  | timestamp t => t.text

/-- The value as it is shown in messages, kind and content. -/
def shown : Value → String
  | null => "Null"
  | bool b => "Bool(" ++ (if b then "true" else "false") ++ ")"
  | int32 n => "Int32(" ++ intText n.toInt ++ ")"
  | int64 n => "Int64(" ++ intText n.toInt ++ ")"
  | float64 x => "Float64(" ++ x.text ++ ")"
  | decimal s => "Decimal(" ++ Text.shown s ++ ")"
  | text s => "String(" ++ Text.shown s ++ ")"
  | bytes bs => "Bytes([" ++ String.intercalate ", " (bs.map (·.toNat.repr)) ++ "])"
  | timestamp t => "Timestamp(" ++ t.textWith 'T' ++ ")"

/-- A missing value is NULL. -/
def ofOption {α : Type} (ofValue : α → Value) : Option α → Value
  | none => null
  | some a => ofValue a

end Value

end SchemaChange
