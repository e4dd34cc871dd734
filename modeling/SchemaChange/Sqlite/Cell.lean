import SchemaChange.Value

/-!
# What SQLite stores

SQLite stores integers, floating-point numbers, texts and blobs, and NULL. Values of other kinds are
bound as one of these and come back as it. A floating-point number that is none is not stored, and NULL
stands in its place. A text is stored as bytes, which need not be UTF-8, and is read tolerantly.
-/

namespace SchemaChange.Sqlite

/-- A stored value. -/
inductive Cell where
  | null
  | integer (n : Int64)
  | real (x : Binary64) (isNumber : x.isNaN = false)
  /-- A text, by its bytes. -/
  | text (bs : List UInt8)
  | blob (bs : List UInt8)
  deriving DecidableEq

namespace Cell

/-- A text as it is bound. -/
def ofText (s : String) : Cell :=
  text (Text.utf8 s.toList)

/-- A value as it is bound: truth values and short numbers as integers, exact numbers and timestamps as
    text. -/
def ofValue : Value → Cell
  | .null => null
  | .bool b => integer (if b then 1 else 0)
  | .int32 n => integer n.toInt64
  | .int64 n => integer n
  | .float64 x => if h : x.isNaN = false then real x h else null
  | .decimal s => ofText s
  | .text s => ofText s
  | .bytes bs => blob bs
  | .timestamp t => ofText t.text

/-- A stored value as it is read. -/
def toValue : Cell → Value
  | null => .null
  | integer n => .int64 n
  | real x _ => .float64 x
  | text bs => .text (String.ofList (Text.tolerantText bs))
  | blob bs => .bytes bs

end Cell

/-- A value as it comes back after it has been bound. -/
def normalize (v : Value) : Value :=
  (Cell.ofValue v).toValue

end SchemaChange.Sqlite
