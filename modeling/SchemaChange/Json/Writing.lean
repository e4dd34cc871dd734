import SchemaChange.Json.Value
import SchemaChange.Number.Shortest
import SchemaChange.Text.Basic
import SchemaChange.Value

/-!
# JSON as text

The compact form: no blanks, escapes only where they are needed. Floating-point numbers have the
fewest digits that read back, the last one even where two decimals are equally near; they are
written with a point from `10^-5` up to `10^16` and otherwise with an exponent and its sign. Those
that are infinite or none are `null`.
-/

namespace SchemaChange.Json

/-- One character inside a string. -/
def escapedChar (c : Char) : List Char :=
  match c with
  | '"' => ['\\', '"']
  | '\\' => ['\\', '\\']
  | '\x08' => ['\\', 'b']
  | '\t' => ['\\', 't']
  | '\n' => ['\\', 'n']
  | '\x0c' => ['\\', 'f']
  | '\r' => ['\\', 'r']
  | c =>
    if c < ' ' then
      ['\\', 'u', '0', '0'] ++ (Text.hexPairs [UInt8.ofNat c.toNat]).map Char.toLower
    else [c]

/-- A string between its quotes. -/
def stringText (s : String) : String :=
  String.ofList (['"'] ++ s.toList.flatMap escapedChar ++ ['"'])

/-- Digits, the last of them at the given power of ten, as a floating-point number. -/
def floatDigits (digits : List Char) (power : Int) : List Char :=
  let leading := power + digits.length
  if 0 ≤ power ∧ leading ≤ 16 then Binary64.positional digits power ++ ['.', '0']
  else if -5 < leading ∧ leading ≤ 16 then Binary64.positional digits power
  else
    let mantissa := match digits with
      | [] | [_] => digits
      | d :: ds => d :: '.' :: ds
    let sign := if 0 < leading then ['+'] else []
    mantissa ++ ['e'] ++ sign ++ (Value.intText (leading - 1)).toList

/-- A floating-point number as text. -/
def floatText (x : Binary64) : String :=
  if !x.isFinite then "null"
  else
    let sign := if x.negative then "-" else ""
    if x.isZero then sign ++ "0.0"
    else
      let (digits, power) := x.shortestDigits .even
      sign ++ String.ofList (floatDigits digits power)

mutual

/-- A value as compact text. -/
def text : Json → String
  | null => "null"
  | bool b => if b then "true" else "false"
  | integer n => Value.intText n
  | float x => floatText x
  | string s => stringText s
  | array items => "[" ++ String.intercalate "," (itemTexts items) ++ "]"
  | object fields => "\x7b" ++ String.intercalate "," (fieldTexts fields) ++ "\x7d"

/-- The items of an array as texts. -/
def itemTexts : List Json → List String
  | [] => []
  | item :: items => text item :: itemTexts items

/-- The fields of an object as texts. -/
def fieldTexts : List (String × Json) → List String
  | [] => []
  | (key, value) :: fields => (stringText key ++ ":" ++ text value) :: fieldTexts fields

end

end SchemaChange.Json
