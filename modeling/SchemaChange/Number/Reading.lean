import SchemaChange.Number.Binary64
import SchemaChange.Text.Basic

/-!
# Floating-point numbers in text

A number in text is an optional sign and then either digits with an optional point among or beside
them and an optional exponent, at least one digit before the exponent and one in it, or one of the
words `inf`, `infinity` and `nan` in any case. It stands for the nearest number of 64 bits.
-/

namespace SchemaChange.Binary64

/-- Splits off an optional sign; true for minus. -/
def splitSign : List Char → Bool × List Char
  | '-' :: s => (true, s)
  | '+' :: s => (false, s)
  | s => (false, s)

/-- Splits off the digits a text begins with. -/
def splitDigits (s : List Char) : List Char × List Char :=
  (s.takeWhile Char.isDigit, s.dropWhile Char.isDigit)

/-- Splits off a point and the digits behind it, both if there is a point. -/
def splitFraction : List Char → List Char × List Char
  | '.' :: s => splitDigits s
  | s => ([], s)

/-- The power of ten of an exponent that makes up the whole text; zero for the empty text. -/
def readExponent? : List Char → Option Int
  | [] => some 0
  | c :: s =>
    if c = 'e' ∨ c = 'E' then
      let (negative, digits) := splitSign s
      if !digits.isEmpty && digits.all Char.isDigit then
        let n := Nat.ofDigitChars 10 digits 0
        some (if negative then -(n : Int) else n)
      else none
    else none

/-- A number in digits, without its sign. -/
def readDigits? (negative : Bool) (s : List Char) : Option Binary64 :=
  let (whole, s) := splitDigits s
  let (fraction, s) := splitFraction s
  let digits := whole ++ fraction
  if digits.isEmpty then none
  else (readExponent? s).map fun e =>
    ofDecimal negative (Nat.ofDigitChars 10 digits 0) digits.length (e - fraction.length)

/-- The number that a text stands for. -/
def read? (s : List Char) : Option Binary64 :=
  let (negative, s) := splitSign s
  let word := Text.asciiLower s
  if word = "inf".toList ∨ word = "infinity".toList then some (infinite negative)
  else if word = "nan".toList then some nan
  else readDigits? negative s

end SchemaChange.Binary64
