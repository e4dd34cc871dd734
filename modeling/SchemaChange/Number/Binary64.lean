import SchemaChange.Number.Decimal

/-!
# Floating-point numbers of 64 bits

A number of 64 bits is a sign, an exponent field of 11 bits and a fraction of 52 bits. What is
finite has the value `±m · 2^e` with whole `m` and `e` (`Binary64.significand`,
`Binary64.exponent`); the other bit patterns are the infinities and the numbers that are none.

`Binary64.nearest` rounds any ratio of whole numbers to the nearest number of 64 bits, a tie to the
one with even significand. Reading decimals, converting whole numbers and scaling are that one
function at different ratios.
-/

namespace SchemaChange

/-- A floating-point number, by its 64 bits. -/
structure Binary64 where
  bits : UInt64
  deriving DecidableEq, Repr, Inhabited

namespace Binary64

/-- The unit of the sign bit. -/
def signUnit : Nat := 0x8000000000000000

/-- The unit of the exponent field, which is also the leading bit of a significand. -/
def exponentUnit : Nat := 0x10000000000000

/-- The sign bit. -/
def negative (x : Binary64) : Bool :=
  signUnit ≤ x.bits.toNat

/-- The exponent field. -/
def exponentField (x : Binary64) : Nat :=
  x.bits.toNat / exponentUnit % 2048

/-- The fraction field. -/
def fractionField (x : Binary64) : Nat :=
  x.bits.toNat % exponentUnit

/-- Neither infinite nor not a number. -/
def isFinite (x : Binary64) : Bool :=
  x.exponentField < 2047

/-- Not a number. -/
def isNaN (x : Binary64) : Bool :=
  x.exponentField == 2047 && x.fractionField != 0

/-- The zeros of either sign. -/
def isZero (x : Binary64) : Bool :=
  x.exponentField == 0 && x.fractionField == 0

/-- Greater than zero; what is not a number is not. -/
def isPositive (x : Binary64) : Bool :=
  !x.negative && !x.isNaN && !x.isZero

/-- The whole number `m` in the value `±m · 2^e` of a finite number. -/
def significand (x : Binary64) : Nat :=
  if x.exponentField = 0 then x.fractionField else exponentUnit + x.fractionField

/-- The power `e` of two in the value `±m · 2^e` of a finite number. -/
def exponent (x : Binary64) : Int :=
  if x.exponentField = 0 then -1074 else x.exponentField - 1075

/-- The number with the given sign and magnitude bits. -/
def ofMagnitude (negative : Bool) (magnitude : Nat) : Binary64 :=
  ⟨UInt64.ofNat (if negative then signUnit + magnitude else magnitude)⟩

/-- The magnitude bits of infinity, above those of every finite number. -/
def infiniteMagnitude : Nat :=
  2047 * exponentUnit

/-- Infinity with the given sign. -/
def infinite (negative : Bool) : Binary64 :=
  ofMagnitude negative infiniteMagnitude

/-- A number that is none. -/
def nan : Binary64 :=
  ofMagnitude false (infiniteMagnitude + exponentUnit / 2)

/-- The whole number nearest to `num / den`, of two equally near ones the even one. -/
def divNearest (num den : Nat) : Nat :=
  let q := num / den
  let r := num % den
  if 2 * r < den then q
  else if den < 2 * r then q + 1
  else if q % 2 = 0 then q else q + 1

/-- The power of two below `num / den`: the `k` with `2^k ≤ num / den < 2^(k+1)`. -/
def binaryOrder (num den : Nat) : Int :=
  let k : Int := (Nat.log2 num : Int) - Nat.log2 den
  if den <<< k.toNat ≤ num <<< (-k).toNat then k else k - 1

/-- The number of the given sign that is nearest to `num / den`, of two equally near ones the one with
    even significand; what is too large becomes infinite. -/
def nearest (negative : Bool) (num den : Nat) : Binary64 :=
  if num = 0 then ofMagnitude negative 0
  else
    let e := max (-1074) (binaryOrder num den - 52)
    let m := divNearest (num <<< (-e).toNat) (den <<< e.toNat)
    let magnitude := (e + 1074).toNat * exponentUnit + m
    ofMagnitude negative (min magnitude infiniteMagnitude)

/-- The number nearest to a whole number. -/
def ofInt (n : Int) : Binary64 :=
  nearest (n < 0) n.natAbs 1

/-- The number of the given sign nearest to `m · 10^k`. Powers that can only give zero or infinity are
    not formed: `m` is not smaller than one and below `10^digits`. -/
def ofDecimal (negative : Bool) (m : Nat) (digits : Nat) (k : Int) : Binary64 :=
  if m = 0 then ofMagnitude negative 0
  else if 310 ≤ k then infinite negative
  else if k + digits < -330 then ofMagnitude negative 0
  else nearest negative (m * Number.tenTo k.toNat) (Number.tenTo (-k).toNat)

/-! ## Scaling

Products and quotients of floating-point numbers, each rounded once, and numbers given by a whole
significand of 64 bits and a power of ten, which are computed by rounding the significand and then
multiplying or dividing by powers that are themselves rounded. For up to 15 digits and small powers
the result is the nearest number; for others it may miss it by a unit.
-/

/-- The magnitude of a finite number as a ratio. -/
def ratio (x : Binary64) : Nat × Nat :=
  (x.significand <<< x.exponent.toNat, 1 <<< (-x.exponent).toNat)

/-- The product of two finite numbers that are not negative. -/
def times (x y : Binary64) : Binary64 :=
  let (a, b) := x.ratio
  let (c, d) := y.ratio
  nearest false (a * c) (b * d)

/-- The quotient of two finite numbers that are not negative, the second not zero. -/
def divided (x y : Binary64) : Binary64 :=
  let (a, b) := x.ratio
  let (c, d) := y.ratio
  nearest false (a * d) (b * c)

/-- The number nearest to a power of ten. -/
def powerOfTen (k : Nat) : Binary64 :=
  nearest false (Number.tenTo k) 1

/-- Divides by `10^308` until the power that is left is in range; a number that is zero stays so. -/
def shrink (x : Binary64) (k : Nat) : Nat → Binary64
  | 0 => ofMagnitude false 0
  | steps + 1 =>
    if k ≤ 308 then x.divided (powerOfTen k)
    else if x.isZero then x
    else shrink (x.divided (powerOfTen 308)) (k - 308) steps

/-- The number `significand · 10^power` in rounded steps; none if it is out of range. -/
def scaled? (significand : Nat) (power : Int) : Option Binary64 :=
  let x := nearest false significand 1
  if power < 0 then some (shrink x (-power).toNat 4)
  else if power ≤ 308 then
    let y := x.times (powerOfTen power.toNat)
    if y.isFinite then some y else none
  else if x.isZero then some x
  else none

end Binary64

end SchemaChange
