import SchemaChange.Text.Basic

/-!
# Strings and keys in TOML

Strings stand between double quotes, with escapes, or between single quotes, without. With three
quotes they go over several lines; a line end right after the opening quotes is dropped, and in a
string with escapes a backslash at the end of a line joins it to the next word.
-/

namespace SchemaChange.Toml

/-- Drops spaces and tabs. -/
def skipSpaces (s : List Char) : List Char :=
  s.dropWhile fun c => c == ' ' || c == '\t'

/-- Whether a comment or a string may hold the character: no control character but the tab. -/
def isPlain (c : Char) : Bool :=
  c == '\t' || (' ' ≤ c && c != '\x7f')

/-- Takes a line end off the text, if it begins with one. -/
def lineEnd? : List Char → Option (List Char)
  | '\n' :: s => some s
  | '\r' :: '\n' :: s => some s
  | _ => none

/-- Drops spaces, tabs and line ends. -/
def skipLines : List Char → List Char
  | ' ' :: s => skipLines s
  | '\t' :: s => skipLines s
  | '\n' :: s => skipLines s
  | '\r' :: '\n' :: s => skipLines s
  | s => s

/-- The character of a code point in hexadecimal digits. -/
def codePoint? (digits : Nat) (s : List Char) : Option (Char × List Char) :=
  if (s.take digits).length < digits then none
  else do
    let n ← Text.readHex? (s.take digits)
    if n < 0xD800 ∨ (0xE000 ≤ n ∧ n < 0x110000) then return (Char.ofNat n, s.drop digits) else none

/-- The character of an escape, without its backslash. -/
def escape? : List Char → Option (Char × List Char)
  | 'b' :: s => some ('\x08', s)
  | 't' :: s => some ('\t', s)
  | 'n' :: s => some ('\n', s)
  | 'f' :: s => some ('\x0c', s)
  | 'r' :: s => some ('\r', s)
  | '"' :: s => some ('"', s)
  | '\\' :: s => some ('\\', s)
  | 'u' :: s => codePoint? 4 s
  | 'U' :: s => codePoint? 8 s
  | _ => none

/-- A string with escapes on one line, up to its closing quote. -/
def basicString? : Nat → List Char → Option (List Char × List Char)
  | 0, _ => none
  | _, [] => none
  | n + 1, c :: s =>
    if c = '"' then some ([], s)
    else do
      let (c, s) ← if c = '\\' then escape? s else if isPlain c then some (c, s) else none
      let (cs, s) ← basicString? n s
      return (c :: cs, s)

/-- A string without escapes on one line, up to its closing quote. -/
def literalString? : List Char → Option (List Char × List Char)
  | [] => none
  | c :: s =>
    if c = '\x27' then some ([], s)
    else if isPlain c then (literalString? s).map fun (cs, s) => (c :: cs, s)
    else none

/-- The end of a string over several lines: three to five quotes, those beyond three belonging to the
    string. -/
def closing? (quote : Char) (s : List Char) : Option (List Char × List Char) :=
  let count := min 5 (s.takeWhile (· == quote)).length
  if count < 3 then none else some (List.replicate (count - 3) quote, s.drop count)

/-- A string over several lines, up to its closing quotes. -/
def multilineString? (quote : Char) : Nat → List Char → Option (List Char × List Char)
  | 0, _ => none
  | n + 1, s =>
    match closing? quote s with
    | some closed => some closed
    | none =>
      match lineEnd? s with
      | some rest => (multilineString? quote n rest).map fun (cs, s) => ('\n' :: cs, s)
      | none =>
        match s with
        | [] => none
        | c :: s =>
          if c = '\\' ∧ quote = '"' then
            match lineEnd? (skipSpaces s) with
            | some _ => multilineString? quote n (skipLines s)
            | none => do
              let (c, s) ← escape? s
              let (cs, s) ← multilineString? quote n s
              return (c :: cs, s)
          else if isPlain c then do
            let (cs, s) ← multilineString? quote n s
            return (c :: cs, s)
          else none

/-- Drops a line end right after the opening quotes. -/
def skipFirstLineEnd (s : List Char) : List Char :=
  (lineEnd? s).getD s

/-- A string of any kind, if the text begins with a quote. -/
def readString? (s : List Char) : Option (List Char × List Char) :=
  let fuel := s.length + 1
  match s with
  | '"' :: '"' :: '"' :: s => multilineString? '"' fuel (skipFirstLineEnd s)
  | '\x27' :: '\x27' :: '\x27' :: s => multilineString? '\x27' fuel (skipFirstLineEnd s)
  | '"' :: s => basicString? fuel s
  | '\x27' :: s => literalString? s
  | _ => none

/-- Whether a key may hold the character without quotes. -/
def isBareKeyChar (c : Char) : Bool :=
  c.isAlphanum || c == '_' || c == '-'

/-- One part of a key. -/
def keyPart? (s : List Char) : Option (String × List Char) :=
  match s with
  | '"' :: s => (basicString? (s.length + 1) s).map fun (cs, s) => (String.ofList cs, s)
  | '\x27' :: s => (literalString? s).map fun (cs, s) => (String.ofList cs, s)
  | s =>
    let part := s.takeWhile isBareKeyChar
    if part.isEmpty then none else some (String.ofList part, s.drop part.length)

/-- A key: one part or several with points between them, and the rest without blanks before it. -/
def readKey? : Nat → List Char → Option (List String × List Char)
  | 0, _ => none
  | n + 1, s => do
    let (part, s) ← keyPart? (skipSpaces s)
    match skipSpaces s with
    | '.' :: s =>
      let (parts, s) ← readKey? n s
      return (part :: parts, s)
    | s => return ([part], s)

end SchemaChange.Toml
