import SchemaChange.Number.Binary64

/-!
# TOML documents

A document is a table of values under keys. A table remembers how it came to be, because that
decides what may still be added to it: a table with a header of its own may not be opened by a
second header, one that only a longer header or a dotted key implies may be opened once or not at
all, and an inline table is complete as it stands.
-/

namespace SchemaChange.Toml

/-- How a table came to be. -/
inductive Origin where
  /-- It has a header, or is the document itself. -/
  | header
  /-- The header of a table inside it implies it. -/
  | implied
  /-- A dotted key made it. -/
  | dotted
  deriving DecidableEq, Repr

/-- A value of a document. -/
inductive Node where
  | text (s : String)
  | integer (n : Int)
  | float (x : Binary64)
  | boolean (b : Bool)
  /-- A date, a time or both, in the usual form. -/
  | moment (s : String)
  | array (items : List Node)
  /-- An inline table. -/
  | inline (entries : List (String × Node))
  | table (origin : Origin) (entries : List (String × Node))
  /-- An array of tables, each with a header, the last one first. -/
  | tables (last : List (String × Node)) (earlier : List Node)
  deriving Inhabited

/-- The entries of a table, in the order they were written. -/
abbrev Entries := List (String × Node)

namespace Entries

/-- The value under a key. -/
def get? (es : Entries) (key : String) : Option Node :=
  es.lookup key

/-- Puts a value under a key, in place of the one that was there or at the end. -/
def put (key : String) (value : Node) : Entries → Entries
  | [] => [(key, value)]
  | (k, v) :: es => if k = key then (key, value) :: es else (k, v) :: put key value es

end Entries

/-- The key that a date or a time has its text under, where a table is asked for. -/
def momentKey : String :=
  "$__toml_private_datetime"

/-- The entries that a value holds, if it is a table of any kind. A date or a time counts as a table with
    one entry, its text. -/
def Node.entries? : Node → Option Entries
  | .inline es => some es
  | .table _ es => some es
  | .moment s => some [(momentKey, .text s)]
  | _ => none

/-- Puts a value under a key of a table that is being written, the key given by its parts. `last` is the
    origin of the table reached so far; a dotted key may only add to tables that dotted keys made. -/
def addDotted (last : Origin) (value : Node) : List String → Entries → Option Entries
  | [], _ => none
  | [key], es => if (es.get? key).isSome ∨ last ≠ .dotted then none else some (es.put key value)
  | key :: keys, es =>
    match es.get? key with
    | none => (addDotted .dotted value keys []).map fun sub => es.put key (.table .dotted sub)
    | some (.table origin sub) =>
      if origin = .header then none
      else (addDotted origin value keys sub).map fun sub => es.put key (.table origin sub)
    | some (.tables table earlier) =>
      (addDotted .header value keys table).map fun table => es.put key (.tables table earlier)
    | some _ => none

/-- Puts a value under a key of a table that is being written, the key given by its parts. -/
def addEntry (keys : List String) (value : Node) (es : Entries) : Option Entries :=
  match keys with
  | [key] => if (es.get? key).isSome then none else some (es.put key value)
  | keys => addDotted .header value keys es

/-- Changes the table at a path of headers; tables on the way that do not exist yet are implied. Of an
    array of tables the last one is meant. -/
def atHeader (change : Entries → Option Entries) : List String → Entries → Option Entries
  | [], es => change es
  | key :: keys, es =>
    match es.get? key with
    | none => (atHeader change keys []).map fun sub => es.put key (.table .implied sub)
    | some (.table origin sub) =>
      (atHeader change keys sub).map fun sub => es.put key (.table origin sub)
    | some (.tables table earlier) =>
      (atHeader change keys table).map fun table => es.put key (.tables table earlier)
    | some _ => none

/-- Opens the table of a header inside its parent. -/
def openTable (key : String) (es : Entries) : Option Entries :=
  match es.get? key with
  | none => some (es.put key (.table .header []))
  | some (.table .implied sub) => some (es.put key (.table .header sub))
  | some _ => none

/-- Opens a further table of an array of tables inside its parent. -/
def openItem (key : String) (es : Entries) : Option Entries :=
  match es.get? key with
  | none => some (es.put key (.tables [] []))
  | some (.tables table earlier) =>
    some (es.put key (.tables [] (.table .header table :: earlier)))
  | some _ => none

end SchemaChange.Toml
