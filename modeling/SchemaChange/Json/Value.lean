import SchemaChange.Dictionary
import SchemaChange.Number.Binary64

/-!
# JSON values

A number is a whole number of 64 bits, with or without sign, or a floating-point number; the fields
of an object are kept in the order of their keys.
-/

namespace SchemaChange

/-- A JSON value. -/
inductive Json where
  | null
  | bool (b : Bool)
  | integer (n : Int)
  | float (x : Binary64)
  | string (s : String)
  | array (items : List Json)
  | object (fields : List (String × Json))
  deriving Inhabited

namespace Json

/-- The field of an object; an absent field is `null`, and so is a field of anything else. -/
def field (j : Json) (key : String) : Json :=
  match j with
  | object fields => (Dictionary.get? fields key).getD null
  | _ => null

/-- Whether an object has a field. -/
def hasField (j : Json) (key : String) : Bool :=
  match j with
  | object fields => (Dictionary.get? fields key).isSome
  | _ => false

/-- An object of the given fields. -/
def ofFields (fields : List (String × Json)) : Json :=
  object (Dictionary.ofList fields)

end Json

end SchemaChange
