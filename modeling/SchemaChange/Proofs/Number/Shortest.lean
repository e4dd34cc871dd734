import Mathlib.Data.List.TakeWhile
import SchemaChange.Number.Shortest
import SchemaChange.Proofs.Number.Nearest

/-!
# The shortest decimal is not zero

The search for the shortest decimal of a number other than zero does not come to zero: zero is not among the
numbers that are rounded to it, and where the search ends without having found one, there are digits left. For
the power of ten that it starts from is near enough to the power of two below the number, in the range of the
exponents that there are. So a number is always written with a digit.

* `Binary64.shortest_ne_zero`
* `Binary64.text_ne_nil`
-/

namespace SchemaChange.Binary64

open Number (tenTo zpow_eq_div)

/-! ## Powers of ten and of two -/

/-- A bound between two powers is one between their multiples. -/
theorem tenPow_le_twoPow_of_mul {p q k b : ℤ} (h : (10 : ℚ) ^ p ≤ 2 ^ q) (n : ℕ) (hk : k ≤ p * n)
    (hb : q * n ≤ b) : (10 : ℚ) ^ k ≤ 2 ^ b :=
  calc (10 : ℚ) ^ k ≤ 10 ^ (p * n) := zpow_le_zpow_right₀ (by norm_num) hk
    _ = (10 ^ p) ^ n := by rw [zpow_mul, zpow_natCast]
    _ ≤ (2 ^ q) ^ n := pow_le_pow_left₀ (by positivity) h n
    _ = 2 ^ (q * n) := by rw [zpow_mul, zpow_natCast]
    _ ≤ 2 ^ b := zpow_le_zpow_right₀ one_le_two hb

/-- The estimate of a power of ten is far enough below the power of two. -/
theorem tenPow_le_twoPow {b : ℤ} (hlow : -1600 ≤ b) (hhigh : b ≤ 1600) :
    (10 : ℚ) ^ (b * 30103 / 100000 - 15) ≤ 2 ^ b := by
  -- The slope is log 2 / log 10, which is between 3 / 10 and 4 / 13. What is lost by either of them stays
  -- below fifteen in the range.
  rcases le_or_gt 0 b with hb | hb
  · exact tenPow_le_twoPow_of_mul (p := 3) (q := 10) (by norm_num) (b / 10).toNat (by omega) (by omega)
  · exact tenPow_le_twoPow_of_mul (p := -4) (q := -13) (by norm_num) (-b / 13 + 1).toNat (by omega)
      (by omega)

theorem decimalOrder_le (num den : Nat) :
    decimalOrder num den ≤ binaryOrder num den * 30103 / 100000 + 2 := by
  unfold decimalOrder
  extract_lets low
  repeat' split
  all_goals omega

theorem binaryOrder_mem (num den : Nat) :
    -(Nat.log2 den : ℤ) - 1 ≤ binaryOrder num den ∧ binaryOrder num den ≤ Nat.log2 num := by
  unfold binaryOrder
  extract_lets k
  split <;> constructor <;> omega

/-! ## The search -/

namespace Neighbourhood

variable {v : Neighbourhood} {tie : Tie} {power : ℤ}

/-- Zero is not among the numbers near to one that is not zero. -/
theorem holds_zero (hlow : 0 < v.low) (hnum : 0 < v.num) : v.holds ⟨0, power⟩ = false := by
  have hpos : 0 < v.low * (v.num * tenTo (-power).toNat) :=
    Nat.mul_pos hlow (Nat.mul_pos hnum (Number.tenTo_pos _))
  unfold holds
  simp only [Nat.zero_mul, decide_eq_false (Nat.not_le.2 hpos), Bool.false_and, Nat.not_lt_zero,
    decide_false, ite_self]

/-- The search comes to zero only if it ends without digits. -/
theorem search_ne_zero (hlow : 0 < v.low) (hnum : 0 < v.num) {steps : Nat}
    (hfloor : (v.floorAt (power - steps)).1 ≠ 0) : (v.search tie steps power).digits ≠ 0 := by
  induction steps generalizing power with
  | zero =>
    rw [Nat.cast_zero, sub_zero] at hfloor
    exact hfloor
  | succ steps ih =>
    -- What is taken on the way is near to the number, which zero is not, or is one more than something.
    have hbelow (h : v.holds ⟨(v.floorAt power).1, power⟩ = true) : (v.floorAt power).1 ≠ 0 := by
      intro hzero
      rw [hzero, holds_zero hlow hnum] at h
      cases h
    rw [search]
    dsimp only
    split
    · split
      · exact Nat.succ_ne_zero _
      · exact hbelow ‹_›
    · exact hbelow ‹_›
    · exact Nat.succ_ne_zero _
    · refine ih ?_
      rwa [Nat.cast_succ, add_comm (steps : ℤ), ← sub_sub] at hfloor

/-- There are digits at a power of ten that is not above the number. -/
theorem floorAt_ne_zero (hden : v.den ≠ 0) (h : (10 : ℚ) ^ power ≤ v.value * v.num / v.den) :
    (v.floorAt power).1 ≠ 0 := by
  have hscaled : v.den * tenTo power.toNat ≤ v.value * v.num * tenTo (-power).toNat := by
    rw [zpow_eq_div (by norm_num), div_le_div_iff₀ (by positivity) (by positivity)] at h
    rw [mul_comm v.den]
    exact_mod_cast h
  exact (Nat.div_pos hscaled (Nat.mul_pos (Nat.pos_of_ne_zero hden) (Number.tenTo_pos _))).ne'

end Neighbourhood

/-! ## Finite numbers -/

variable {x : Binary64} {tie : Tie}

theorem significand_lt (x : Binary64) : x.significand < 2 ^ 53 := by
  have hfraction : x.fractionField < exponentUnit := Nat.mod_lt _ (by decide)
  have hunit : exponentUnit = 2 ^ 52 := rfl
  unfold significand
  split <;> omega

theorem exponent_mem (hfinite : x.isFinite = true) : -1074 ≤ x.exponent ∧ x.exponent ≤ 971 := by
  have hfield : x.exponentField < 2047 := of_decide_eq_true hfinite
  unfold exponent
  split <;> omega

theorem neighbourhood_num (x : Binary64) : x.neighbourhood.num = 2 ^ x.exponent.toNat :=
  (Nat.shiftLeft_eq 1 _).trans (Nat.one_mul _)

theorem neighbourhood_den (x : Binary64) : x.neighbourhood.den = 2 ^ (2 + (-x.exponent).toNat) := by
  rw [pow_add]
  exact Nat.shiftLeft_eq 4 _

/-- The order of a finite number is in the range of its exponents. -/
theorem binaryOrder_neighbourhood (hfinite : x.isFinite = true) :
    let v := x.neighbourhood
    (-1600 ≤ binaryOrder (v.value * v.num) v.den) ∧ binaryOrder (v.value * v.num) v.den ≤ 1600 := by
  intro v
  obtain ⟨hlow, hhigh⟩ := exponent_mem hfinite
  obtain ⟨hbelow, habove⟩ := binaryOrder_mem (v.value * v.num) v.den
  have hden : Nat.log2 v.den ≤ 1076 := by
    rw [x.neighbourhood_den, Nat.log2_two_pow]
    omega
  have hnum : Nat.log2 (v.value * v.num) ≤ 1026 := by
    have hlt : v.value * v.num < 2 ^ (55 + x.exponent.toNat) := by
      have hvalue : v.value < 2 ^ 55 := by
        have hsignificand := x.significand_lt
        have heq : v.value = 4 * x.significand := rfl
        omega
      rw [pow_add, x.neighbourhood_num]
      exact Nat.mul_lt_mul_of_pos_right hvalue (Nat.two_pow_pos _)
    by_cases hzero : v.value * v.num = 0
    · rw [hzero]
      decide
    · have hlog := (Nat.log2_lt hzero).2 hlt
      omega
  omega

/-- The shortest decimal of a number other than zero is not zero. -/
theorem shortest_ne_zero (hfinite : x.isFinite = true) (hzero : x.isZero = false) :
    (x.shortest tie).digits ≠ 0 := by
  have hsignificand : x.significand ≠ 0 := fun h => by
    rw [x.significand_eq_zero_iff.1 h] at hzero
    cases hzero
  let v := x.neighbourhood
  have hlow : 0 < v.low := by
    have heq : v.low = if x.fractionField = 0 ∧ 1 < x.exponentField then 4 * x.significand - 1
      else 4 * x.significand - 2 := rfl
    rw [heq]
    split <;> omega
  have hnum : 0 < v.num := x.neighbourhood_num ▸ Nat.two_pow_pos _
  have hvalue : v.value * v.num ≠ 0 :=
    Nat.mul_ne_zero (Nat.mul_ne_zero (by decide) hsignificand) hnum.ne'
  have hden : v.den ≠ 0 := x.neighbourhood_den ▸ (Nat.two_pow_pos _).ne'
  refine Neighbourhood.search_ne_zero (v := v) hlow hnum (Neighbourhood.floorAt_ne_zero hden ?_)
  obtain ⟨hbelow, habove⟩ := binaryOrder_neighbourhood hfinite
  have horder := decimalOrder_le (v.value * v.num) v.den
  calc (10 : ℚ) ^ (decimalOrder (v.value * v.num) v.den - (17 : ℕ))
      ≤ 10 ^ (binaryOrder (v.value * v.num) v.den * 30103 / 100000 - 15) :=
        zpow_le_zpow_right₀ (by norm_num) (by omega)
    _ ≤ 2 ^ binaryOrder (v.value * v.num) v.den := tenPow_le_twoPow hbelow habove
    _ ≤ (v.value * v.num : ℕ) / v.den := binaryOrder_le hvalue hden
    _ = v.value * v.num / v.den := by rw [Nat.cast_mul]

/-! ## Digits -/

/-- Zeros alone make up zero. -/
theorem ofDigitChars_zeros {s : List Char} (h : ∀ c ∈ s, c = '0') : Nat.ofDigitChars 10 s 0 = 0 := by
  induction s with
  | nil => rfl
  | cons c s ih =>
    obtain ⟨rfl, hs⟩ := List.forall_mem_cons.1 h
    exact ih hs

theorem shortestDigits_ne_nil (tie : Tie) (hfinite : x.isFinite = true) (hzero : x.isZero = false) :
    (x.shortestDigits tie).1 ≠ [] := by
  intro hnil
  have hzeros : ∀ c ∈ (Nat.toDigits 10 (x.shortest tie).digits).reverse, (c == '0') = true :=
    List.dropWhile_eq_nil_iff.1 (List.reverse_eq_nil_iff.1 hnil)
  have hdigits := ofDigitChars_zeros fun c hc => beq_iff_eq.1 (hzeros c (List.mem_reverse.2 hc))
  rw [Nat.ofDigitChars_toDigits (by decide) (by decide)] at hdigits
  exact shortest_ne_zero hfinite hzero hdigits

theorem positional_ne_nil {digits : List Char} (h : digits ≠ []) (power : ℤ) :
    positional digits power ≠ [] := by
  unfold positional
  split
  · exact List.append_ne_nil_of_left_ne_nil h _
  · dsimp only
    split <;> simp

/-- No number is written as nothing. -/
theorem text_ne_nil (x : Binary64) : x.text.toList ≠ [] := by
  unfold text
  split
  · decide
  · extract_lets sign
    split
    · rw [String.toList_append]
      exact List.append_ne_nil_of_right_ne_nil _ (by decide)
    · split
      · rw [String.toList_append]
        exact List.append_ne_nil_of_right_ne_nil _ (by decide)
      · have hfinite : x.isFinite = true := by simp_all
        have hdigits := shortestDigits_ne_nil .up hfinite (Bool.eq_false_iff.2 ‹_›)
        rw [String.toList_append, String.toList_ofList]
        exact List.append_ne_nil_of_right_ne_nil _ (positional_ne_nil hdigits _)

end SchemaChange.Binary64
