import SchemaChange.Json.Value

/-!
# Records

Values of this library as JSON. A structure is an object of its fields, and may be read from an
array of all of them in order; a choice without content is its name, a choice with content an object
of one field, and if its content has fields that is an object too. Fields that are not known are
passed over. Numbers have to fit, and nothing is converted on the way.
-/

namespace SchemaChange

/-- The types whose values have a record: how a value is written, and which value a record stands for. -/
class Recorded (α : Type) where
  toRecord : α → Json
  ofRecord? : Json → Option α

namespace Record

/-- The fields of a structure, each absent or present. In an array only fields with a default may be
    absent. -/
def fields? (names : List (String × Bool)) : Json → Option (List (Option Json))
  | .object fields => some (names.map fun (name, _) => Dictionary.get? fields name)
  | .array items =>
    if names.length < items.length || (names.drop items.length).any (!·.2) then none
    else some (items.map some ++ List.replicate (names.length - items.length) none)
  | _ => none

/-- Fields without a default. -/
def required (names : List String) : List (String × Bool) :=
  names.map (·, false)

/-- A field that may be absent or null. -/
def optional? {α : Type} (read? : Json → Option α) : Option Json → Option (Option α)
  | none | some .null => some none
  | some j => (read? j).map some

/-- A field that has a value when it is absent. -/
def orDefault? {α : Type} (default : α) (read? : Json → Option α) : Option Json → Option α
  | none => some default
  | some j => read? j

/-- A text. -/
def text? : Json → Option String
  | .string s => some s
  | _ => none

/-- A truth value. -/
def bool? : Json → Option Bool
  | .bool b => some b
  | _ => none

/-- A whole number within bounds. -/
def integer? (low high : Int) : Json → Option Int
  | .integer n => if low ≤ n ∧ n ≤ high then some n else none
  | _ => none

/-- A whole number of 64 bits without sign. -/
def natural? (j : Json) : Option Nat :=
  (integer? 0 (UInt64.size - 1 : Nat) j).map Int.toNat

/-- A whole number of 32 bits without sign. -/
def uint32? (j : Json) : Option UInt32 :=
  (integer? 0 (UInt32.size - 1 : Nat) j).map fun n => UInt32.ofNat n.toNat

/-- An array of values. -/
def list? {α : Type} (read? : Json → Option α) : Json → Option (List α)
  | .array items => items.mapM read?
  | _ => none

/-- A choice among names without content. -/
def choice? {α : Type} (all : List α) (name : α → String) : Json → Option α
  | .string s => all.find? (name · == s)
  | .object [(s, .null)] => all.find? (name · == s)
  | _ => none

/-- A text or null. -/
def ofOption {α : Type} (write : α → Json) : Option α → Json
  | none => .null
  | some a => write a

/-- A list of texts. -/
def ofTexts (names : List String) : Json :=
  .array (names.map .string)

end Record

end SchemaChange
