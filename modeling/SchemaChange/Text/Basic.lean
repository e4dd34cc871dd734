import SchemaChange.Text.Property

/-!
# Texts

Texts as lists of characters: names compared in ASCII, blanks at the two ends, parts, and the ways in
which a text is written inside another one (quoted, shown for reading, in hexadecimal digits).
-/

namespace SchemaChange.Text

/-! ## Names compared in ASCII

Databases compare names ignoring the case of the ASCII letters only. `Char.toLower` and
`Char.toUpper` change exactly these letters, so folding a text character by character keeps its
length and all other characters.
-/

/-- The text with its ASCII letters small. -/
def asciiLower (s : List Char) : List Char :=
  s.map Char.toLower

/-- The text with its ASCII letters capital. -/
def asciiUpper (s : List Char) : List Char :=
  s.map Char.toUpper

/-- Whether two names are the same when the case of ASCII letters is ignored. -/
def sameName (a b : String) : Bool :=
  asciiLower a.toList == asciiLower b.toList

theorem sameName_iff {a b : String} :
    sameName a b = true ↔ asciiLower a.toList = asciiLower b.toList := by
  simp [sameName]

theorem sameName_refl (a : String) : sameName a a = true := by
  simp [sameName]

/-- Which of two names comes first makes no difference. -/
theorem sameName_comm (a b : String) : sameName a b = sameName b a := by
  simp only [sameName, BEq.comm]

/-- Names that are the same are the same as the same names. -/
theorem sameName_congr {a b : String} (h : sameName a b = true) (c : String) :
    sameName a c = sameName b c := by
  rw [sameName, sameName_iff.1 h, ← sameName]

/-! ## Surrounding blanks -/

/-- The text without its leading blanks. -/
def trimStart (s : List Char) : List Char :=
  s.dropWhile isBlank

/-- The text without its trailing blanks. -/
def trimEnd (s : List Char) : List Char :=
  (s.reverse.dropWhile isBlank).reverse

/-- The text without the blanks around it. -/
def trim (s : List Char) : List Char :=
  trimEnd (trimStart s)

/-- Whether the text holds nothing but blanks. -/
def isBlankText (s : String) : Bool :=
  s.toList.all isBlank

/-! ## Ends and parts -/

/-- What precedes the last character of the text, if that is `c`. -/
def stripLast? (c : Char) (s : List Char) : Option (List Char) :=
  if s.getLast? = some c then some s.dropLast else none

/-- Whether `part` occurs in the text, as one piece. -/
def occursIn (part : List Char) : List Char → Bool
  | [] => part.isEmpty
  | c :: cs => part.isPrefixOf (c :: cs) || occursIn part cs

/-! ## Quoted text

A text between two quote characters, in which the quote character itself is written twice. SQL
writes text literals so, between single quotes, and names that are not plain words.
-/

/-- The text with every quote character `q` written twice. -/
def doubled (q : Char) : List Char → List Char
  | [] => []
  | c :: cs => if c = q then q :: q :: doubled q cs else c :: doubled q cs

/-- The text between quote characters, those inside it written twice. -/
def quoted (q : Char) (s : List Char) : List Char :=
  q :: (doubled q s ++ [q])

/-! ## Texts shown for reading

A text between double quotes, in which everything that would not show as itself is escaped: the
quote, the backslash, tabs and line ends by a letter, other characters that are not printable by
their code point, as in `\u{200b}`.
-/

/-- One character as it is shown inside double quotes. -/
def shownChar (c : Char) : List Char :=
  match c with
  | '\x00' => ['\\', '0']
  | '\t' => ['\\', 't']
  | '\n' => ['\\', 'n']
  | '\r' => ['\\', 'r']
  | '\\' => ['\\', '\\']
  | '"' => ['\\', '"']
  | c =>
    if isPrintable c then [c]
    else ['\\', 'u', '\x7b'] ++ Nat.toDigits 16 c.toNat ++ ['\x7d']

/-- A text as it is shown: between double quotes, with escapes. -/
def shown (s : String) : String :=
  String.ofList (['"'] ++ s.toList.flatMap shownChar ++ ['"'])

/-! ## Hexadecimal text

Bytes as pairs of hexadecimal digits, and numbers as the shortest run of them.
-/

/-- The digit of a number below 16, with capital letters. -/
def hexDigit (n : Nat) : Char :=
  if n < 10 then Char.ofNat ('0'.toNat + n) else Char.ofNat ('A'.toNat + (n - 10))

/-- The number of a hexadecimal digit in either case. -/
def hexValue? (c : Char) : Option Nat :=
  if '0' ≤ c && c ≤ '9' then some (c.toNat - '0'.toNat)
  else if 'a' ≤ c && c ≤ 'f' then some (c.toNat - 'a'.toNat + 10)
  else if 'A' ≤ c && c ≤ 'F' then some (c.toNat - 'A'.toNat + 10)
  else none

/-- Two capital digits for every byte. -/
def hexPairs : List UInt8 → List Char
  | [] => []
  | b :: bs => hexDigit (b.toNat / 16) :: hexDigit (b.toNat % 16) :: hexPairs bs

/-- The bytes that pairs of digits stand for. -/
def readHexPairs? : List Char → Option (List UInt8)
  | [] => some []
  | [_] => none
  | a :: b :: cs => do
    let high ← hexValue? a
    let low ← hexValue? b
    let bytes ← readHexPairs? cs
    return UInt8.ofNat (16 * high + low) :: bytes

/-- The number that digits stand for. -/
def readHex? (cs : List Char) : Option Nat :=
  cs.foldlM (fun n c => (hexValue? c).map (16 * n + ·)) 0

end SchemaChange.Text
