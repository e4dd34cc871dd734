import SchemaChange.Text.Basic
import SchemaChange.Timestamp

/-!
# Timestamps in text

Reads a timestamp of the form `2024-03-01T12:30:00.5`. Blanks may stand before every number and
mark and at the end. The year has a sign and any number of digits, or none and at most four digits;
the other fields have one or two digits. Of the fraction nine digits count. Second 60 is the leap
second.
-/

namespace SchemaChange.Timestamp

/-- Splits off a number of at least one and at most `width` digits. -/
def splitNumber? (width : Nat) (s : List Char) : Option (Nat × List Char) :=
  let digits := (s.take width).takeWhile Char.isDigit
  if digits.isEmpty then none
  else some (Nat.ofDigitChars 10 digits 0, s.drop digits.length)

/-- Splits off blanks and a number of at most two digits. -/
def splitField? (s : List Char) : Option (Nat × List Char) :=
  splitNumber? 2 (Text.trimStart s)

/-- Splits off blanks and a mark. -/
def splitMark? (mark : Char) (s : List Char) : Option (List Char) :=
  match Text.trimStart s with
  | [] => none
  | c :: rest => if c = mark then some rest else none

/-- Splits off blanks and a year. -/
def splitYear? (s : List Char) : Option (Int × List Char) :=
  match Text.trimStart s with
  | '-' :: s => (splitNumber? s.length s).map fun (n, rest) => (-(n : Int), rest)
  | '+' :: s => (splitNumber? s.length s).map fun (n, rest) => ((n : Int), rest)
  | s => (splitNumber? 4 s).map fun (n, rest) => ((n : Int), rest)

/-- Splits off a fraction, in nanoseconds, if there is a point. -/
def splitFraction? : List Char → Option (Nat × List Char)
  | '.' :: s =>
    let digits := (s.take 9).takeWhile Char.isDigit
    if digits.isEmpty then none
    else some (Nat.ofDigitChars 10 (digits ++ List.replicate (9 - digits.length) '0') 0,
      (s.drop digits.length).dropWhile Char.isDigit)
  | s => some (0, s)

/-- The timestamp that a text stands for. -/
def read? (s : List Char) : Option Timestamp := do
  let (year, s) ← splitYear? s
  let s ← splitMark? '-' s
  let (month, s) ← splitField? s
  let s ← splitMark? '-' s
  let (day, s) ← splitField? s
  let s ← splitMark? 'T' s
  let (hour, s) ← splitField? s
  let s ← splitMark? ':' s
  let (minute, s) ← splitField? s
  let s ← splitMark? ':' s
  let (second, s) ← splitField? s
  let (fraction, s) ← splitFraction? s
  if s.all Text.isBlank then
    if second = 60 then of? year month day hour minute 59 (oneSecond + fraction)
    else of? year month day hour minute second fraction
  else none

end SchemaChange.Timestamp
