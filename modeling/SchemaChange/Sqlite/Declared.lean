import SchemaChange.Catalog
import SchemaChange.Sqlite.Piece
import SchemaChange.Text.Utf8

/-!
# What SQLite keeps of a declaration

Types, defaults and actions are declared as SQL text. SQLite keeps a type from its first word to its
last; the few types that it knows come in capitals, and of any other type that begins with a quoted
text only this text is kept (`reportedType`). A default is kept from its first word to its last too,
but without brackets around it (`reportedDefault`), an action by its words (`declaredAction`).
-/

namespace SchemaChange.Sqlite

/-! ## Types -/

/-- The types that SQLite knows. -/
def standardTypes : List String :=
  ["ANY", "BLOB", "INT", "INTEGER", "REAL", "TEXT"]

/-- Cuts a word off the end of a text, whatever the case of its letters, with the blanks before it. -/
def cutWord? (word : String) (s : List Char) : Option (List Char) :=
  let n := s.length - word.length
  if Text.asciiLower (s.drop n) = word.toList then
    some ((s.take n).reverse.dropWhile isSpace).reverse
  else none

/-- A type without the words of an unfinished clause at its end: `GENERATED ALWAYS` is read as part of
    the type and then taken off it, `ALWAYS` also alone. Texts of less than 16 bytes cannot end in both
    words and stay as they are. -/
def withoutClause (s : List Char) : List Char :=
  if (Text.utf8 s).length < 16 then s
  else
    match cutWord? "always" s with
    | none => s
    | some s => (cutWord? "generated" s).getD s

/-- A type without its first and last byte, if it begins with a quote and no other quote opens or closes
    before its end. -/
def unwrapped (s : List Char) : List Char :=
  match s with
  | [] => []
  | q :: rest =>
    let bytes := Text.utf8 rest
    if isQuote q && 1 < bytes.length && !rest.dropLast.any isQuote then
      Text.tolerantText bytes.dropLast
    else s

/-- The text of a type, by which SQLite looks for a type that it knows. -/
def typeText (declared : String) : List Char :=
  unwrapped (withoutClause (Piece.join (Piece.trim (Piece.split declared.toList))))

/-- The type that SQLite knows under a declared name. -/
def standardType? (declared : String) : Option String :=
  standardTypes.find? (Text.sameName · (String.ofList (typeText declared)))

/-- What stands before the quote that closes a text; a quote written twice is a quote of the text. -/
def readQuoted (q : Char) : List Char → List Char
  | [] => []
  | [c] => if c = q then [] else [c]
  | c :: d :: s =>
    if c ≠ q then c :: readQuoted q (d :: s)
    else if d = q then q :: readQuoted q s
    else []

/-- The quoted text that a text begins with, or the whole text if it does not begin with one. -/
def dequoted (s : List Char) : List Char :=
  match s with
  | [] => []
  | q :: rest => if isQuote q then readQuoted (closingQuote q) rest else s

/-- A type as SQLite reports it. -/
def reportedType (declared : String) : String :=
  (standardType? declared).getD (String.ofList (dequoted (typeText declared)))

/-! ## Defaults and actions -/

/-- A default as SQLite reports it. -/
def reportedDefault (written : String) : String :=
  let kept := match Piece.trim (Piece.split written.toList) with
    | .word ['('] :: ps => trimSpaces (Piece.join ps.dropLast)
    | ps => Piece.join ps
  String.ofList kept

/-- The action that a text begins with, given its words in capitals. -/
def actionOfWords : List String → ForeignKeyAction
  | "SET" :: "NULL" :: _ => .setNull
  | "SET" :: "DEFAULT" :: _ => .setDefault
  | "CASCADE" :: _ => .cascade
  | "RESTRICT" :: _ => .restrict
  | _ => .noAction

/-- What a foreign key declares to happen when a referenced row is deleted. -/
def declaredAction (written : String) : ForeignKeyAction :=
  let words := Piece.words (Piece.split written.toList)
  actionOfWords (words.map fun w => String.ofList (Text.asciiUpper w))

end SchemaChange.Sqlite
