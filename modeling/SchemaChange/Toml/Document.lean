import SchemaChange.Toml.Scalar
import SchemaChange.Toml.Text

/-!
# Reading TOML

A document is read line by line: headers of tables, entries, comments and blank lines. Arrays may go
over several lines and end in a comma; inline tables may do neither. `Toml.read?` refuses every
text that is not TOML, in particular one that defines a key or a table twice, and every text with
more than `deepest` arrays and inline tables inside each other or parts in one key.
-/

namespace SchemaChange.Toml

/-- How many arrays and inline tables may stand inside each other, and how many parts a key may have. -/
def deepest : Nat :=
  79

/-- A key with no more parts than a key may have, and the rest. -/
def readShortKey? (s : List Char) : Option (List String × List Char) := do
  let (keys, s) ← readKey? (s.length + 1) s
  if deepest < keys.length then none else return (keys, s)

/-- Drops a comment, if the text begins with one. -/
def skipComment (s : List Char) : List Char :=
  match s with
  | '#' :: s => s.dropWhile isPlain
  | s => s

/-- Drops blanks, line ends and comments. -/
def skipToItem : Nat → List Char → List Char
  | 0, s => s
  | n + 1, s =>
    match skipLines s with
    | '#' :: s => skipToItem n (s.dropWhile isPlain)
    | s => s

/-- Drops the end of a line with its blanks and its comment; the end of the text is one too. -/
def endLine? (s : List Char) : Option (List Char) :=
  match skipComment (skipSpaces s) with
  | [] => some []
  | s => lineEnd? s

mutual

/-- A value with at most `depth` arrays and inline tables inside each other, and the rest. -/
def readValue? (depth : Nat) : Nat → List Char → Option (Node × List Char)
  | 0, _ => none
  | _, [] => none
  | n + 1, c :: s =>
    if c = '"' ∨ c = '\x27' then
      (readString? (c :: s)).map fun (cs, s) => (.text (String.ofList cs), s)
    else if c = '[' then
      match depth with
      | 0 => none
      | depth + 1 => (readItems? depth n s).map fun (items, s) => (.array items, s)
    else if c = '\x7b' then
      match depth, skipSpaces s with
      | 0, _ => none
      | _ + 1, '\x7d' :: s => some (.inline [], s)
      | depth + 1, s => (readInline? depth n [] s).map fun (es, s) => (.inline es, s)
    else readWord? (c :: s)

/-- The items of an array, up to its closing bracket. -/
def readItems? (depth : Nat) : Nat → List Char → Option (List Node × List Char)
  | 0, _ => none
  | n + 1, s =>
    match skipToItem (s.length + 1) s with
    | ']' :: s => some ([], s)
    | s => do
      let (item, s) ← readValue? depth n s
      match skipToItem (s.length + 1) s with
      | ']' :: s => return ([item], s)
      | ',' :: s =>
        let (items, s) ← readItems? depth n s
        return (item :: items, s)
      | _ => none

/-- The entries of an inline table that is not empty, up to its closing brace. -/
def readInline? (depth : Nat) : Nat → Entries → List Char → Option (Entries × List Char)
  | 0, _, _ => none
  | n + 1, es, s => do
    let (keys, s) ← readShortKey? s
    let s ← ['='].isPrefixOf? s
    let (value, s) ← readValue? depth n (skipSpaces s)
    let es ← addEntry keys value es
    match skipSpaces s with
    | '\x7d' :: s => return (es, s)
    | ',' :: s => readInline? depth n es s
    | _ => none

end

/-- A document that is being read: what it holds, and the path of the table that entries go to. -/
structure Document where
  root : Entries := []
  path : List String := []

/-- Reads a header after its opening bracket. -/
def readHeader? (d : Document) (s : List Char) : Option (Document × List Char) :=
  match s with
  | '[' :: s => do
    let (keys, s) ← readShortKey? s
    let s ← [']', ']'].isPrefixOf? s
    let key ← keys.getLast?
    let root ← atHeader (openItem key) keys.dropLast d.root
    return (⟨root, keys⟩, ← endLine? s)
  | s => do
    let (keys, s) ← readShortKey? s
    let s ← [']'].isPrefixOf? s
    let key ← keys.getLast?
    let root ← atHeader (openTable key) keys.dropLast d.root
    return (⟨root, keys⟩, ← endLine? s)

/-- Reads an entry of the current table. -/
def readEntry? (d : Document) (s : List Char) : Option (Document × List Char) := do
  let (keys, s) ← readShortKey? s
  let s ← ['='].isPrefixOf? s
  let s := skipSpaces s
  let (value, s) ← readValue? deepest (2 * s.length + 2) s
  let root ← atHeader (addEntry keys value) d.path d.root
  return ({ d with root }, ← endLine? s)

/-- Reads the lines of a document. -/
def readLines? : Nat → Document → List Char → Option Document
  | 0, _, _ => none
  | n + 1, d, s =>
    match skipSpaces s with
    | [] => some d
    | '[' :: s => do
      let (d, s) ← readHeader? d s
      readLines? n d s
    | c :: s =>
      if c = '#' ∨ c = '\n' ∨ c = '\r' then (endLine? (c :: s)).bind (readLines? n d)
      else do
        let (d, s) ← readEntry? d (c :: s)
        readLines? n d s

/-- The entries of a document; a byte order mark may stand before it. -/
def read? (text : String) : Option Entries :=
  let s := match text.toList with
    | '\ufeff' :: s => s
    | s => s
  (readLines? (s.length + 1) {} s).map (·.root)

end SchemaChange.Toml
