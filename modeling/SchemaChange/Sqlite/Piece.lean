import SchemaChange.Text.Basic

/-!
# Pieces of SQL text

SQLite reads SQL text piece by piece: blanks and comments, which separate, and words between them. A
quoted text is one word with its quotes, and so is a run of letters and digits; any other character
is a word by itself.
-/

namespace SchemaChange.Sqlite

/-- Whether SQLite takes the character for a blank. -/
def isSpace (c : Char) : Bool :=
  c == ' ' || ('\t' ≤ c && c ≤ '\r')

/-- Whether a word without quotes may hold the character; all characters outside ASCII count as
    letters. -/
def isWordChar (c : Char) : Bool :=
  c.isAlphanum || c == '_' || c == '$' || 128 ≤ c.toNat

/-- Whether the character opens a quoted text. -/
def isQuote (c : Char) : Bool :=
  c == '"' || c == '\x27' || c == '\x60' || c == '['

/-- The character that closes what a quote opens. -/
def closingQuote (q : Char) : Char :=
  if q = '[' then ']' else q

/-- The text without the blanks around it. -/
def trimSpaces (s : List Char) : List Char :=
  ((s.dropWhile isSpace).reverse.dropWhile isSpace).reverse

/-- A piece of SQL text. -/
inductive Piece where
  /-- Blanks, or a comment. -/
  | blank (text : List Char)
  | word (text : List Char)
  deriving DecidableEq, Repr

namespace Piece

/-- The text of a piece. -/
def text : Piece → List Char
  | blank s => s
  | word s => s

/-- Whether a piece separates only. -/
def isBlank : Piece → Bool
  | blank _ => true
  | word _ => false

/-- Splits a text behind the end of the comment that it begins in. -/
def splitComment : List Char → List Char × List Char
  | [] => ([], [])
  | '*' :: '/' :: s => (['*', '/'], s)
  | c :: s =>
    let (comment, rest) := splitComment s
    (c :: comment, rest)

/-- Splits a text behind the quote that closes the one it begins in; a quote written twice does not
    close. -/
def splitQuoted (q : Char) : List Char → List Char × List Char
  | [] => ([], [])
  | [c] => ([c], [])
  | c :: d :: s =>
    if c ≠ q then
      let (text, rest) := splitQuoted q (d :: s)
      (c :: text, rest)
    else if d ≠ q then ([c], d :: s)
    else
      let (text, rest) := splitQuoted q s
      (c :: d :: text, rest)

/-- The first piece of a text, given its first character and what follows, and the rest. A byte order
    mark separates where it does not stand inside a word. -/
def first (c : Char) (s : List Char) : Piece × List Char :=
  if isSpace c then (blank (c :: s.takeWhile isSpace), s.dropWhile isSpace)
  else if c = '\ufeff' then (blank [c], s)
  else if isWordChar c then (word (c :: s.takeWhile isWordChar), s.dropWhile isWordChar)
  else
    match c, s with
    | '-', '-' :: _ => (blank (c :: s.takeWhile (· != '\n')), s.dropWhile (· != '\n'))
    | '/', '*' :: s =>
      let (comment, rest) := splitComment s
      (blank (c :: '*' :: comment), rest)
    | _, _ =>
      if isQuote c then
        let (text, rest) := splitQuoted (closingQuote c) s
        (word (c :: text), rest)
      else (word [c], s)

/-- The pieces of a text, at most as many as stated. -/
def splitUpTo : Nat → List Char → List Piece
  | n + 1, c :: s =>
    let (piece, rest) := first c s
    piece :: splitUpTo n rest
  | _, _ => []

/-- The pieces of a text in order. -/
def split (s : List Char) : List Piece :=
  splitUpTo s.length s

/-- The text of pieces. -/
def join (ps : List Piece) : List Char :=
  ps.flatMap text

/-- The pieces from the first word to the last. -/
def trim (ps : List Piece) : List Piece :=
  ((ps.dropWhile isBlank).reverse.dropWhile isBlank).reverse

/-- The words among the pieces. -/
def words (ps : List Piece) : List (List Char) :=
  (ps.filter (!·.isBlank)).map text

end Piece

end SchemaChange.Sqlite
