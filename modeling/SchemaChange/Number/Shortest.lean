import SchemaChange.Number.Binary64

/-!
# The shortest decimal of a floating-point number

Of the decimals that read back as a given number, the ones with the fewest digits are looked for,
and of these the one nearest to the number; which of two equally near ones is taken is a matter of
the format (`Tie`). The decimals that read back are those in the interval of reals that round to the
number, its ends included when the significand is even. For each count of digits only the two
decimals next to the number have to be tried: if any decimal of that many digits lies in the
interval, one of these two does.
-/

namespace SchemaChange.Binary64

open SchemaChange.Number (tenTo)

/-- Which of two decimals is taken that are equally near. -/
inductive Tie where
  /-- The larger one. -/
  | up
  /-- The one whose last digit is even. -/
  | even
  deriving DecidableEq, Repr

/-- The decimal `digits · 10^power`. -/
structure Decimal where
  digits : Nat
  power : Int

/-- Whether `10^k ≤ num / den`. -/
def powerOfTenLe (k : Int) (num den : Nat) : Bool :=
  tenTo k.toNat * den ≤ num * tenTo (-k).toNat

/-- The `k` with `10^k ≤ num / den < 10^(k+1)`, estimated from below and counted up. -/
def decimalOrder (num den : Nat) : Int :=
  let low := binaryOrder num den * 30103 / 100000 - 1
  if powerOfTenLe (low + 3) num den then low + 3
  else if powerOfTenLe (low + 2) num den then low + 2
  else if powerOfTenLe (low + 1) num den then low + 1
  else low

/-- A finite number other than zero and the reals that round to it, in quarters of the unit of its
    significand: a quarter is `num / den`, the value is `value` quarters, the reals reach from `low` to
    `high` quarters, with these ends or without. -/
structure Neighbourhood where
  num : Nat
  den : Nat
  value : Nat
  low : Nat
  high : Nat
  closed : Bool

/-- The reals that round to `x`. Below a power of two the numbers lie twice as close. -/
def neighbourhood (x : Binary64) : Neighbourhood :=
  let m := x.significand
  let e := x.exponent
  { num := 1 <<< e.toNat
    den := 4 <<< (-e).toNat
    value := 4 * m
    low := if x.fractionField = 0 ∧ 1 < x.exponentField then 4 * m - 1 else 4 * m - 2
    high := 4 * m + 2
    closed := m % 2 == 0 }

/-- Whether the decimal lies among the reals that round to the number. -/
def Neighbourhood.holds (v : Neighbourhood) (c : Decimal) : Bool :=
  let scaled := c.digits * tenTo c.power.toNat * v.den
  let quarter := v.num * tenTo (-c.power).toNat
  if v.closed then v.low * quarter ≤ scaled && scaled ≤ v.high * quarter
  else v.low * quarter < scaled && scaled < v.high * quarter

/-- The number as a multiple of `10^power`, rounded down, and how what is left compares to half of the
    step to the next multiple. -/
def Neighbourhood.floorAt (v : Neighbourhood) (power : Int) : Nat × Ordering :=
  let num := v.value * v.num * tenTo (-power).toNat
  let den := v.den * tenTo power.toNat
  (num / den, compare (2 * (num % den)) den)

/-- Whether the multiple above is taken rather than the `d`-th one, by what is left of a step. -/
def Tie.takesUpper (tie : Tie) (d : Nat) : Ordering → Bool
  | .lt => false
  | .gt => true
  | .eq => tie = .up || d % 2 = 1

/-- Looks for a decimal that reads back with a digit more at each step. -/
def Neighbourhood.search (v : Neighbourhood) (tie : Tie) : Nat → Int → Decimal
  | 0, power => ⟨(v.floorAt power).1, power⟩
  | steps + 1, power =>
    let (d, left) := v.floorAt power
    let below : Decimal := ⟨d, power⟩
    let above : Decimal := ⟨d + 1, power⟩
    match v.holds below, v.holds above with
    | true, true => if tie.takesUpper d left then above else below
    | true, false => below
    | false, true => above
    | false, false => v.search tie steps (power - 1)

/-- The shortest decimal of a finite number other than zero, its sign apart. Seventeen digits always
    suffice. -/
def shortest (tie : Tie) (x : Binary64) : Decimal :=
  let v := x.neighbourhood
  v.search tie 17 (decimalOrder (v.value * v.num) v.den)

/-- The digits of the shortest decimal without the zeros at their end, and the power of ten of the last
    of them. -/
def shortestDigits (tie : Tie) (x : Binary64) : List Char × Int :=
  let d := x.shortest tie
  let digits := (Nat.toDigits 10 d.digits).reverse
  let kept := digits.dropWhile (· == '0')
  (kept.reverse, d.power + (digits.length - kept.length : Nat))

/-- Digits whose last one stands at the given power of ten, written without an exponent. -/
def positional (digits : List Char) (power : Int) : List Char :=
  if 0 ≤ power then digits ++ List.replicate power.toNat '0'
  else
    let places := (-power).toNat
    if places < digits.length then
      digits.take (digits.length - places) ++ ['.'] ++ digits.drop (digits.length - places)
    else ['0', '.'] ++ List.replicate (places - digits.length) '0' ++ digits

/-- The number as text: the shortest decimal that reads back, the larger of two equally near ones, never
    with an exponent. -/
def text (x : Binary64) : String :=
  if x.isNaN then "NaN"
  else
    let sign := if x.negative then "-" else ""
    if !x.isFinite then sign ++ "inf"
    else if x.isZero then sign ++ "0"
    else
      let (digits, power) := x.shortestDigits .up
      sign ++ String.ofList (positional digits power)

end SchemaChange.Binary64
