/-!
# Decimal digits

Powers of ten, and whole numbers in decimal digits: at least one ASCII digit, before them a sign where
one is allowed, and nothing else. Numbers of fixed width are refused when they do not fit.
-/

namespace SchemaChange.Number

/-! ## Powers of ten -/

/-- The power of ten with the given exponent. -/
def tenTo (k : Nat) : Nat :=
  Nat.pow 10 k

@[simp] theorem tenTo_zero : tenTo 0 = 1 := rfl

@[simp] theorem tenTo_succ (k : Nat) : tenTo (k + 1) = tenTo k * 10 := rfl

/-- A power of ten is not zero. -/
theorem tenTo_pos (k : Nat) : 0 < tenTo k := by
  induction k with
  | zero => exact Nat.one_pos
  | succ k ih => exact Nat.mul_pos ih (Nat.succ_pos 9)

/-! ## Integers in text -/

/-- The number that a text of decimal digits stands for. -/
def natural? (s : List Char) : Option Nat :=
  if !s.isEmpty && s.all Char.isDigit then some (Nat.ofDigitChars 10 s 0) else none

/-- A whole number with an optional plus sign. -/
def unsigned? : List Char → Option Nat
  | '+' :: s => natural? s
  | s => natural? s

/-- A whole number with an optional sign. -/
def signed? : List Char → Option Int
  | '-' :: s => (natural? s).map fun n => -(n : Int)
  | s => (unsigned? s).map Int.ofNat

/-- A whole number of 32 bits with an optional plus sign. -/
def readUInt32? (s : List Char) : Option UInt32 :=
  (unsigned? s).bind fun n => if n < UInt32.size then some (UInt32.ofNat n) else none

/-- A whole number of 64 bits with an optional plus sign. -/
def readUInt64? (s : List Char) : Option UInt64 :=
  (unsigned? s).bind fun n => if n < UInt64.size then some (UInt64.ofNat n) else none

/-- A whole number of 64 bits with an optional sign. -/
def readInt64? (s : List Char) : Option Int64 :=
  (signed? s).bind fun n =>
    if Int64.minValue.toInt ≤ n ∧ n ≤ Int64.maxValue.toInt then some (Int64.ofInt n) else none

end SchemaChange.Number
