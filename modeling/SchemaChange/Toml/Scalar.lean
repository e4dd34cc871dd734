import SchemaChange.Number.Reading
import SchemaChange.Text.Basic
import SchemaChange.Timestamp
import SchemaChange.Toml.Value

/-!
# Numbers, dates and truth values in TOML

A value that is no string and no collection is one word without blanks, but for the space that may
stand between a date and a time. The word as a whole decides what it is.
-/

namespace SchemaChange.Toml

/-- Whether a word of this kind may hold the character. -/
def isWordChar (c : Char) : Bool :=
  c.isAlphanum || c == '_' || c == '+' || c == '-' || c == '.' || c == ':'

/-- Digits with underscores between them, each underscore between two digits. -/
def groupedDigits? (isDigit : Char → Bool) (s : List Char) : Option (List Char) :=
  let groups := s.splitOn '_'
  if groups.all fun g => !g.isEmpty && g.all isDigit then some groups.flatten else none

/-- The digits of a decimal number: no zero before others. -/
def wholeDigits? (s : List Char) : Option (List Char) := do
  let digits ← groupedDigits? Char.isDigit s
  if 1 < digits.length && digits.head? == some '0' then none else return digits

/-- A whole number if it has at most 64 bits. -/
def inRange? (n : Int) : Option Node :=
  if Int64.minValue.toInt ≤ n ∧ n ≤ Int64.maxValue.toInt then some (.integer n) else none

/-- The number of digits in a base. -/
def digitsValue (base : Nat) (digits : List Char) : Nat :=
  digits.foldl (fun n c => base * n + (Text.hexValue? c).getD 0) 0

/-- A whole number in a base that its beginning names. -/
def basedInteger? (s : List Char) : Option Node :=
  match s with
  | '0' :: 'x' :: s =>
    (groupedDigits? (Text.hexValue? · |>.isSome) s).bind fun ds => inRange? (digitsValue 16 ds)
  | '0' :: 'o' :: s =>
    (groupedDigits? (fun c => '0' ≤ c && c ≤ '7') s).bind fun ds => inRange? (digitsValue 8 ds)
  | '0' :: 'b' :: s =>
    (groupedDigits? (fun c => c == '0' || c == '1') s).bind fun ds => inRange? (digitsValue 2 ds)
  | _ => none

/-- A whole decimal number. -/
def decimalInteger? (s : List Char) : Option Node := do
  let (negative, s) := Binary64.splitSign s
  let digits ← wholeDigits? s
  let n : Int := digitsValue 10 digits
  inRange? (if negative then -n else n)

/-- The exponent of a floating-point number, without underscores. -/
def exponentText? (s : List Char) : Option (List Char) :=
  match s with
  | [] => some []
  | _ :: s =>
    let (negative, s) := Binary64.splitSign s
    (groupedDigits? Char.isDigit s).map fun ds => 'e' :: (if negative then '-' :: ds else ds)

/-- The fraction of a floating-point number, without underscores. -/
def fractionText? (s : List Char) : Option (List Char) :=
  match s with
  | [] => some []
  | _ :: s => (groupedDigits? Char.isDigit s).map ('.' :: ·)

/-- A floating-point number in digits. -/
def floatInDigits? (negative : Bool) (s : List Char) : Option Node := do
  let (mantissa, exponent) := s.span fun c => c != 'e' && c != 'E'
  let (whole, fraction) := mantissa.span (· != '.')
  if fraction.isEmpty && exponent.isEmpty then none
  let whole ← wholeDigits? whole
  let fraction ← fractionText? fraction
  let exponent ← exponentText? exponent
  let x ← Binary64.readDigits? negative (whole ++ fraction ++ exponent)
  if x = Binary64.infinite false then none else return .float x

/-- A floating-point number. -/
def float? (s : List Char) : Option Node :=
  let (negative, s) := Binary64.splitSign s
  if s = "inf".toList then some (.float (Binary64.infinite negative))
  else if s = "nan".toList then some (.float Binary64.nan)
  else floatInDigits? negative s

/-- A number of exactly two digits. -/
def twoDigits? (s : List Char) : Option Nat :=
  if s.length = 2 ∧ s.all Char.isDigit then some (Nat.ofDigitChars 10 s 0) else none

/-- Whether the word is a date that the calendar has. -/
def isDate (s : List Char) : Bool :=
  match s.splitOn '-' with
  | [year, month, day] =>
    year.length == 4 && year.all Char.isDigit &&
      match twoDigits? month, twoDigits? day with
      | some m, some d =>
        1 ≤ m && m ≤ 12 && 1 ≤ d && d ≤ daysInMonth (Nat.ofDigitChars 10 year 0) m
      | _, _ => false
  | _ => false

/-- Whether the word is a time of day, seconds and an optional fraction included. -/
def isTime (s : List Char) : Bool :=
  match s.splitOn ':' with
  | [hour, minute, second] =>
    let (whole, fraction) := second.span (· != '.')
    match twoDigits? hour, twoDigits? minute, twoDigits? whole with
    | some h, some m, some s =>
      h < 24 && m < 60 && s ≤ 60 &&
        (fraction.isEmpty || (1 < fraction.length && fraction.tail.all Char.isDigit))
    | _, _, _ => false
  | _ => false

/-- Whether the word is a distance from universal time. -/
def isOffset (s : List Char) : Bool :=
  match s with
  | [] | ['Z'] | ['z'] => true
  | c :: s =>
    (c == '+' || c == '-') &&
      match s.splitOn ':' with
      | [hour, minute] =>
        match twoDigits? hour, twoDigits? minute with
        | some h, some m => h < 24 && m < 60
        | _, _ => false
      | _ => false

/-- Whether the word is a time of day with an optional distance from universal time. -/
def isOffsetTime (s : List Char) : Bool :=
  let (time, offset) := s.span fun c => c.isDigit || c == ':' || c == '.'
  isTime time && isOffset offset

/-- Whether the word is a date, a time, or a date and a time joined by a `T`. -/
def isMoment (s : List Char) : Bool :=
  isDate s || isTime s ||
    match s.drop 10 with
    | c :: time => (c == 'T' || c == 't') && isDate (s.take 10) && isOffsetTime time
    | [] => false

/-- A time of day in its usual form: a fraction has nine digits at most and does not end in zeros. -/
def usualTime (s : List Char) : List Char :=
  let (whole, fraction) := s.span (· != '.')
  let digits := (((fraction.drop 1).take 9).reverse.dropWhile (· == '0')).reverse
  if digits.isEmpty then whole else whole ++ '.' :: digits

/-- A distance from universal time in its usual form: a capital `Z`, and no negative zero. -/
def usualOffset (s : List Char) : List Char :=
  if s = ['z'] then ['Z']
  else if s = "-00:00".toList then "+00:00".toList
  else s

/-- A time of day, with an optional distance from universal time, in its usual form. -/
def usualOffsetTime (s : List Char) : List Char :=
  let (time, offset) := s.span fun c => c.isDigit || c == ':' || c == '.'
  usualTime time ++ usualOffset offset

/-- A date, a time, or a date and a time joined by any character, in its usual form: a `T` joins. -/
def usualMoment (s : List Char) : List Char :=
  if isDate s then s
  else if isDate (s.take 10) then s.take 10 ++ 'T' :: usualOffsetTime (s.drop 11)
  else usualTime s

/-- The value of a date, a time, or both. -/
def moment (s : List Char) : Node :=
  .moment (String.ofList (usualMoment s))

/-- The value of a word. -/
def word? (s : List Char) : Option Node :=
  if s = "true".toList then some (.boolean true)
  else if s = "false".toList then some (.boolean false)
  else if isMoment s then some (moment s)
  else basedInteger? s <|> decimalInteger? s <|> float? s

/-- A value that is one word, or a date and a time with a space between them, and the rest. -/
def readWord? (s : List Char) : Option (Node × List Char) :=
  let word := s.takeWhile isWordChar
  let rest := s.drop word.length
  match isDate word, rest with
  | true, ' ' :: c :: _ =>
    if c.isDigit then
      let time := (rest.drop 1).takeWhile isWordChar
      if isOffsetTime time then
        some (moment (word ++ [' '] ++ time), rest.drop (time.length + 1))
      else none
    else some (moment word, rest)
  | _, _ => (word? word).map (·, rest)

end SchemaChange.Toml
