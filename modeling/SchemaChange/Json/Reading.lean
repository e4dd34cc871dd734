import SchemaChange.Json.Value
import SchemaChange.Number.Binary64
import SchemaChange.Number.Reading
import SchemaChange.Text.Basic

/-!
# JSON from text

Reads one JSON value that makes up a whole text. Every step returns what it has read and the rest of
the text; the number of steps is bounded by twice the length of the text, since no step but the one into
a value leaves the text as it is.
-/

namespace SchemaChange.Json

/-- Drops the blanks that JSON allows between its tokens. -/
def skipBlanks (s : List Char) : List Char :=
  s.dropWhile fun c => c == ' ' || c == '\t' || c == '\n' || c == '\r'

/-- The character of an escape of one letter. -/
def escape? : Char → Option Char
  | '"' => some '"'
  | '\\' => some '\\'
  | '/' => some '/'
  | 'b' => some '\x08'
  | 'f' => some '\x0c'
  | 'n' => some '\n'
  | 'r' => some '\r'
  | 't' => some '\t'
  | _ => none

/-- The unit of a `\u` escape of four digits, and the rest. -/
def unit? (s : List Char) : Option (Nat × List Char) :=
  if (s.take 4).length < 4 then none else (Text.readHex? (s.take 4)).map (·, s.drop 4)

/-- The character of a `\u` escape, two of which make up a character beyond the first plane. -/
def unicodeEscape? (s : List Char) : Option (Char × List Char) := do
  let (u, s) ← unit? s
  if 0xD800 ≤ u ∧ u < 0xDC00 then
    match s with
    | '\\' :: 'u' :: s =>
      let (v, s) ← unit? s
      if 0xDC00 ≤ v ∧ v < 0xE000 then
        return (Char.ofNat (0x10000 + (u - 0xD800) * 0x400 + (v - 0xDC00)), s)
      else none
    | _ => none
  else if 0xDC00 ≤ u ∧ u < 0xE000 then none
  else return (Char.ofNat u, s)

/-- The characters of a string up to its closing quote. -/
def readString? : Nat → List Char → Option (List Char × List Char)
  | 0, _ => none
  | _, [] => none
  | n + 1, c :: s =>
    if c = '"' then some ([], s)
    else if c = '\\' then
      match s with
      | [] => none
      | e :: s => do
        let (c, s) ← if e = 'u' then unicodeEscape? s else (escape? e).map (·, s)
        let (cs, s) ← readString? n s
        return (c :: cs, s)
    else if c < ' ' then none
    else do
      let (cs, s) ← readString? n s
      return (c :: cs, s)

/-- A significand of at most 64 bits from digits: it, and how many digits did not fit. -/
def significand (n : Nat) : List Char → Nat × Nat
  | [] => (n, 0)
  | c :: cs =>
    let next := 10 * n + (c.toNat - '0'.toNat)
    if next < UInt64.size then significand next cs else (n, cs.length + 1)

/-- A number with a fraction or an exponent, or too large for a whole number. -/
def float? (negative : Bool) (whole fraction : List Char) (exponent : Int) : Option Json :=
  let (n, left) := significand 0 (whole ++ fraction)
  let kept := whole.length + fraction.length - left
  (Binary64.scaled? n (exponent + whole.length - kept)).map fun x =>
    float (if negative then Binary64.ofMagnitude true x.bits.toNat else x)

/-- The exponent of a number, zero if it has none, and the rest. -/
def readExponent? : List Char → Option (Int × List Char)
  | [] => some (0, [])
  | c :: s =>
    if c = 'e' ∨ c = 'E' then
      let (negative, s) := Binary64.splitSign s
      let (digits, s) := Binary64.splitDigits s
      if digits.isEmpty then none
      else
        let n : Int := Nat.ofDigitChars 10 digits 0
        some (if negative then -n else n, s)
    else some (0, c :: s)

/-- A number, and the rest. -/
def readNumber? (s : List Char) : Option (Json × List Char) := do
  let (negative, s) := match s with
    | '-' :: s => (true, s)
    | s => (false, s)
  let (whole, s) := Binary64.splitDigits s
  if whole.isEmpty || (1 < whole.length && whole.head? == some '0') then none
  let hasFraction := s.head? == some '.'
  let (fraction, s) := Binary64.splitFraction s
  if hasFraction && fraction.isEmpty then none
  let hasExponent := s.head? == some 'e' || s.head? == some 'E'
  let (exponent, s) ← readExponent? s
  let n := Nat.ofDigitChars 10 whole 0
  let fits := if negative then 0 < n && n ≤ Int64.minValue.toInt.natAbs else n < UInt64.size
  if fits && !hasFraction && !hasExponent then
    return (integer (if negative then -(n : Int) else n), s)
  else return (← float? negative whole fraction exponent, s)

mutual

/-- A value without blanks before it, and the rest. -/
def readValue? : Nat → List Char → Option (Json × List Char)
  | 0, _ => none
  | _, [] => none
  | n + 1, c :: s =>
    if c = '"' then (readString? n s).map fun (cs, s) => (string (String.ofList cs), s)
    else if c = '[' then
      match skipBlanks s with
      | ']' :: s => some (array [], s)
      | s => (readItems? n s).map fun (items, s) => (array items, s)
    else if c = '\x7b' then
      match skipBlanks s with
      | '\x7d' :: s => some (object [], s)
      | s => (readFields? n s).map fun (fields, s) => (ofFields fields, s)
    else if c = 'n' then ("ull".toList.isPrefixOf? s).map (null, ·)
    else if c = 't' then ("rue".toList.isPrefixOf? s).map (bool true, ·)
    else if c = 'f' then ("alse".toList.isPrefixOf? s).map (bool false, ·)
    else readNumber? (c :: s)

/-- The items of an array that is not empty, up to its closing bracket. -/
def readItems? : Nat → List Char → Option (List Json × List Char)
  | 0, _ => none
  | n + 1, s => do
    let (item, s) ← readValue? n (skipBlanks s)
    match skipBlanks s with
    | ']' :: s => return ([item], s)
    | ',' :: s =>
      let (items, s) ← readItems? n s
      return (item :: items, s)
    | _ => none

/-- The fields of an object that is not empty, up to its closing brace. -/
def readFields? : Nat → List Char → Option (List (String × Json) × List Char)
  | 0, _ => none
  | n + 1, s => do
    let s ← ['"'].isPrefixOf? (skipBlanks s)
    let (key, s) ← readString? n s
    let s ← [':'].isPrefixOf? (skipBlanks s)
    let (value, s) ← readValue? n (skipBlanks s)
    match skipBlanks s with
    | '\x7d' :: s => return ([(String.ofList key, value)], s)
    | ',' :: s =>
      let (fields, s) ← readFields? n s
      return ((String.ofList key, value) :: fields, s)
    | _ => none

end

/-- The value that a text stands for. -/
def read? (text : String) : Option Json := do
  let s := text.toList
  let (value, rest) ← readValue? (2 * s.length + 2) (skipBlanks s)
  if (skipBlanks rest).isEmpty then return value else none

end SchemaChange.Json
