import SchemaChange.Dialect
import SchemaChange.Number.Reading
import SchemaChange.Text.Basic
import SchemaChange.Value

/-!
# Literals

Values written into the text of a statement. Text stands between single quotes, bytes as
hexadecimal digits in the form the dialect understands. There is no literal for a number that is
infinite or none, and for an exact number whose text is not numeric.
-/

namespace SchemaChange.Dialect

/-- A text between single quotes. -/
def textLiteral (s : String) : String :=
  String.ofList (Text.quoted '\x27' s.toList)

/-- Whether a text is that of a number. -/
def isNumeric (s : List Char) : Bool :=
  (Binary64.read? s).isSome

/-- The literal of an exact number: its text without surrounding blanks. -/
def decimalLiteral? (text : String) : Option String :=
  let s := Text.trim text.toList
  if isNumeric s then some (String.ofList s) else none

/-- The literal of a truth value. -/
def boolLiteral (d : Dialect) (b : Bool) : String :=
  match d with
  | oracle | derby | mySql => if b then "1" else "0"
  | postgres | generic => if b then "TRUE" else "FALSE"

/-- The literal of bytes. -/
def bytesLiteral (d : Dialect) (bs : List UInt8) : String :=
  let hex := String.ofList (Text.hexPairs bs)
  match d with
  | oracle => "HEXTORAW('" ++ hex ++ "')"
  | postgres => "decode('" ++ hex ++ "', 'hex')"
  | mySql | derby | generic => "X'" ++ hex ++ "'"

/-- The literal of a timestamp. -/
def timestampLiteral (d : Dialect) (t : Timestamp) : String :=
  match d with
  | derby => "TIMESTAMP('" ++ t.text ++ "')"
  | generic => textLiteral t.text
  | oracle | mySql | postgres => "TIMESTAMP '" ++ t.text ++ "'"

/-- The literal of a value, if it has one. -/
def literal? (d : Dialect) : Value → Option String
  | .null => some "NULL"
  | .bool b => some (d.boolLiteral b)
  | .int32 n => some (Value.intText n.toInt)
  | .int64 n => some (Value.intText n.toInt)
  | .float64 x => if x.isFinite then some x.text else none
  | .decimal s => decimalLiteral? s
  | .text s => some (textLiteral s)
  | .bytes bs => some (d.bytesLiteral bs)
  | .timestamp t => some (d.timestampLiteral t)

end SchemaChange.Dialect
