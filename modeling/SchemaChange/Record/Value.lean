import SchemaChange.Record.Basic
import SchemaChange.Timestamp.Reading
import SchemaChange.Value

/-!
# Values as records
-/

namespace SchemaChange.Value

open SchemaChange.Record

/-- A value as JSON: the name of its kind and its content. -/
def toRecord : Value → Json
  | null => .string "Null"
  | bool b => .object [("Bool", .bool b)]
  | int32 n => .object [("Int32", .integer n.toInt)]
  | int64 n => .object [("Int64", .integer n.toInt)]
  | float64 x => .object [("Float64", .float x)]
  | decimal s => .object [("Decimal", .string s)]
  | text s => .object [("String", .string s)]
  | bytes bs => .object [("Bytes", .array (bs.map fun b => .integer b.toNat))]
  | timestamp t => .object [("Timestamp", .string (t.textWith 'T'))]

/-- A floating-point number; whole numbers are converted. -/
def floatOfRecord? : Json → Option Binary64
  | .float x => some x
  | .integer n => some (Binary64.ofInt n)
  | _ => none

/-- The content of a value of the named kind. -/
def contentOfRecord? (kind : String) (content : Json) : Option Value :=
  match kind with
  | "Null" => match content with
    | .null => some null
    | _ => none
  | "Bool" => (bool? content).map bool
  | "Int32" =>
    (integer? Int32.minValue.toInt Int32.maxValue.toInt content).map fun n => int32 (Int32.ofInt n)
  | "Int64" =>
    (integer? Int64.minValue.toInt Int64.maxValue.toInt content).map fun n => int64 (Int64.ofInt n)
  | "Float64" => (floatOfRecord? content).map float64
  | "Decimal" => (text? content).map decimal
  | "String" => (text? content).map text
  | "Bytes" => (list? (integer? 0 255) content).map fun ns => bytes (ns.map (UInt8.ofNat ·.toNat))
  | "Timestamp" => ((text? content).bind fun s => Timestamp.read? s.toList).map timestamp
  | _ => none

/-- The value that a record stands for. -/
def ofRecord? : Json → Option Value
  | .string "Null" => some null
  | .object [(kind, content)] => contentOfRecord? kind content
  | _ => none

instance : Recorded Value := ⟨toRecord, ofRecord?⟩

end SchemaChange.Value
