import Mathlib.Algebra.Order.Field.Power
import Mathlib.Data.Rat.Cast.Order
import Mathlib.Tactic.Linarith
import Mathlib.Tactic.NormNum
import Mathlib.Tactic.Positivity
import SchemaChange.Number.Binary64

/-!
# Which numbers are rounded to zero

A ratio is rounded to a multiple of a power of two, and to one above zero unless it is at most half of the
least number that there is. So whether the number nearest to a ratio is above zero is told from the ratio,
and so is it for decimals and for whole numbers, of which none but zero is as small.

* `Binary64.binaryOrder_le`: the power of two below a ratio;
* `Binary64.isPositive_nearest`, `Binary64.isPositive_ofInt`, `Binary64.isPositive_ofDecimal`: what is
  above zero when it is rounded.
-/

namespace SchemaChange

/-- A power is formed as a ratio of whole numbers. -/
theorem Number.zpow_eq_div {b : ℚ} (hb : b ≠ 0) (k : ℤ) : b ^ k = b ^ k.toNat / b ^ (-k).toNat := by
  rw [eq_div_iff (pow_ne_zero _ hb), ← zpow_natCast, ← zpow_natCast, ← zpow_add₀ hb]
  congr 1
  omega

namespace Binary64

open Number (zpow_eq_div)

variable {negative : Bool} {num den magnitude : Nat}

/-! ## Bits -/

theorem toNat_ofMagnitude (negative : Bool) (h : magnitude ≤ infiniteMagnitude) :
    (ofMagnitude negative magnitude).bits.toNat = (if negative then signUnit else 0) + magnitude := by
  have hle : magnitude ≤ 2047 * 0x10000000000000 := h
  rw [ofMagnitude, UInt64.toNat_ofNat']
  cases negative with
  | true =>
    rw [if_pos rfl, if_pos rfl, signUnit]
    omega
  | false =>
    rw [if_neg Bool.false_ne_true, if_neg Bool.false_ne_true]
    omega

/-- The bits of a magnitude are those of a number above zero unless there are none. -/
theorem isPositive_ofMagnitude (h : magnitude ≤ infiniteMagnitude) :
    (ofMagnitude negative magnitude).isPositive = true ↔ negative = false ∧ magnitude ≠ 0 := by
  have hle : magnitude ≤ 2047 * 0x10000000000000 := h
  have hbits := toNat_ofMagnitude negative h
  cases negative with
  | true => simp [isPositive, Binary64.negative, hbits]
  | false =>
    simp only [isPositive, Binary64.negative, isNaN, isZero, exponentField, fractionField, hbits,
      signUnit, exponentUnit]
    simp
    omega

theorem isPositive_infinite : (infinite negative).isPositive = true ↔ negative = false :=
  (isPositive_ofMagnitude (Nat.le_refl _)).trans (and_iff_left (by decide))

theorem isPositive_nan : nan.isPositive = false := by
  decide

theorem significand_eq_zero_iff (x : Binary64) : x.significand = 0 ↔ x.isZero = true := by
  have hunit : 0 < exponentUnit := by decide
  unfold significand isZero
  split <;> simp_all [hunit.ne']

/-! ## Ratios -/

theorem divNearest_eq_zero_iff (hden : 0 < den) : divNearest num den = 0 ↔ 2 * num ≤ den := by
  unfold divNearest
  extract_lets q r
  by_cases hnum : num < den
  · have hq : q = 0 := Nat.div_eq_of_lt hnum
    have hr : r = num := Nat.mod_eq_of_lt hnum
    rw [hq, hr]
    split
    · omega
    · split <;> simp <;> omega
  · -- From one on nothing is rounded to zero, whatever is left over.
    have hq : 0 < q := Nat.div_pos (Nat.le_of_not_lt hnum) hden
    refine iff_of_false ?_ (by omega)
    split
    · omega
    · split
      · omega
      · split <;> omega

/-- The power of two is not above the ratio. -/
theorem binaryOrder_le (hnum : num ≠ 0) (hden : den ≠ 0) :
    (2 : ℚ) ^ binaryOrder num den ≤ num / den := by
  have hden' : (0 : ℚ) < den := by positivity
  unfold binaryOrder
  extract_lets k
  split
  · rename_i h
    rw [Nat.shiftLeft_eq, Nat.shiftLeft_eq] at h
    have h' : (den : ℚ) * 2 ^ k.toNat ≤ num * 2 ^ (-k).toNat := by exact_mod_cast h
    rw [zpow_eq_div two_ne_zero, div_le_div_iff₀ (by positivity) hden']
    linarith
  · -- The lengths alone bound the ratio from below, by one power less.
    have hk : (2 : ℚ) ^ (k - 1) = 2 ^ Nat.log2 num / 2 ^ (Nat.log2 den + 1) := by
      rw [← zpow_natCast, ← zpow_natCast, ← zpow_sub₀ two_ne_zero]
      congr 1
      push_cast
      omega
    have hlow : ((2 ^ Nat.log2 num : ℕ) : ℚ) ≤ num := by exact_mod_cast Nat.log2_self_le hnum
    have hhigh : (den : ℚ) ≤ ((2 ^ (Nat.log2 den + 1) : ℕ) : ℚ) := by exact_mod_cast Nat.lt_log2_self.le
    push_cast at hlow hhigh
    rw [hk]
    exact div_le_div₀ (by positivity) hlow hden' hhigh

/-- A number scaled down by a power of two is rounded to zero up to half of the power. -/
theorem divNearest_scaled_eq_zero_iff (num : Nat) (hden : den ≠ 0) (e : ℤ) :
    divNearest (num <<< (-e).toNat) (den <<< e.toNat) = 0 ↔ (num / den : ℚ) ≤ 2 ^ (e - 1) := by
  have hden' : (0 : ℚ) < den := by positivity
  have hscaled : 2 * (num * 2 ^ (-e).toNat) ≤ den * 2 ^ e.toNat ↔
      2 * (num * 2 ^ (-e).toNat : ℚ) ≤ den * 2 ^ e.toNat := by
    exact_mod_cast Iff.rfl
  rw [Nat.shiftLeft_eq, Nat.shiftLeft_eq, divNearest_eq_zero_iff (by positivity), hscaled,
    zpow_sub_one₀ two_ne_zero, zpow_eq_div two_ne_zero e, ← div_eq_mul_inv, div_div,
    div_le_div_iff₀ hden' (by positivity), mul_comm 2, mul_assoc, mul_comm (den : ℚ)]

/-- Half of the least number above zero. What is nearer to zero is rounded to it. -/
def tiny : ℚ :=
  2 ^ (-1075 : ℤ)

theorem tiny_pos : 0 < tiny :=
  zpow_pos two_pos _

/-- The number nearest to a ratio is above zero if the ratio is so by more than half of a unit. -/
theorem isPositive_nearest (hden : den ≠ 0) :
    (nearest negative num den).isPositive = true ↔ negative = false ∧ tiny < num / den := by
  unfold nearest
  split
  · rename_i hnum
    rw [isPositive_ofMagnitude (Nat.zero_le _), hnum]
    simp [tiny_pos.le]
  · rename_i hnum
    extract_lets e m magnitude
    have hmagnitude : min magnitude infiniteMagnitude ≠ 0 ↔ tiny < num / den := by
      have hinfinite : infiniteMagnitude ≠ 0 := by decide
      -- At the least exponent the bits are those of the multiple alone. Beyond it they count the exponent
      -- too, and the ratio is far from zero.
      rcases eq_or_lt_of_le (le_max_left (-1074) (binaryOrder num den - 52)) with he | he
      · have hm : m = 0 ↔ (num / den : ℚ) ≤ tiny := by
          have hscaled := divNearest_scaled_eq_zero_iff num hden e
          have htiny : (2 : ℚ) ^ (e - 1) = tiny := by
            rw [tiny]
            congr 1
            omega
          rwa [htiny] at hscaled
        have hmagnitude : magnitude = m := by
          have hzero : (e + 1074).toNat = 0 := by omega
          rw [show magnitude = (e + 1074).toNat * exponentUnit + m from rfl, hzero, Nat.zero_mul,
            Nat.zero_add]
        rw [← not_le, ← hm, hmagnitude]
        omega
      · have hunit : exponentUnit ≤ magnitude := by
          have hpos : 1 ≤ (e + 1074).toNat := by omega
          exact le_trans (Nat.le_mul_of_pos_left _ hpos) (Nat.le_add_right _ _)
        have hone : 0 < exponentUnit := by decide
        refine iff_of_true (by omega) (lt_of_lt_of_le ?_ (binaryOrder_le hnum hden))
        exact zpow_lt_zpow_right₀ one_lt_two (by omega)
    rw [isPositive_ofMagnitude (Nat.min_le_right _ _), hmagnitude]

/-! ## Whole numbers and decimals -/

theorem tiny_lt_one : tiny < 1 :=
  zpow_lt_one_of_neg₀ one_lt_two (by decide)

/-- Whole numbers are zero or far from it. -/
theorem tiny_lt_intCast_iff {n : ℤ} : tiny < n ↔ 0 < n := by
  constructor
  · intro h
    exact_mod_cast tiny_pos.trans h
  · intro h
    have hone : (1 : ℚ) ≤ n := by exact_mod_cast h
    exact tiny_lt_one.trans_le hone

theorem isPositive_ofInt (n : ℤ) : (ofInt n).isPositive = true ↔ tiny < n := by
  rw [ofInt, isPositive_nearest one_ne_zero, Nat.cast_one, div_one, decide_eq_false_iff_not, not_lt,
    tiny_lt_intCast_iff, ← Int.cast_natCast, tiny_lt_intCast_iff]
  omega

/-- Powers of ten that are not formed are beyond the numbers that there are. -/
theorem tenPow_le_tiny {k : ℤ} (h : k ≤ -331) : (10 : ℚ) ^ k ≤ tiny := by
  have hpow : (2 : ℚ) ^ 1075 ≤ 10 ^ 331 := by
    exact_mod_cast (by decide +kernel : 2 ^ 1075 ≤ 10 ^ 331)
  calc (10 : ℚ) ^ k ≤ 10 ^ (-331 : ℤ) := zpow_le_zpow_right₀ (by norm_num) h
    _ = (10 ^ 331)⁻¹ := by rw [zpow_neg]; rfl
    _ ≤ (2 ^ 1075)⁻¹ := inv_anti₀ (by positivity) hpow
    _ = tiny := by rw [tiny, zpow_neg]; rfl

theorem isPositive_ofDecimal {m digits : Nat} {k : ℤ} (hm : m < 10 ^ digits) :
    (ofDecimal negative m digits k).isPositive = true ↔
      negative = false ∧ tiny < m * (10 : ℚ) ^ k := by
  have hten : (0 : ℚ) < 10 := by norm_num
  unfold ofDecimal
  split
  · rename_i hzero
    rw [isPositive_ofMagnitude (Nat.zero_le _), hzero, Nat.cast_zero, zero_mul]
    simp [tiny_pos.le]
  · rename_i hne
    have hone : (1 : ℚ) ≤ m := by exact_mod_cast Nat.one_le_iff_ne_zero.2 hne
    split
    · rename_i hk
      have hpow : (1 : ℚ) ≤ 10 ^ k := one_le_zpow₀ (by norm_num) (by omega)
      exact isPositive_infinite.trans (iff_self_and.2 fun _ =>
        tiny_lt_one.trans_le (one_le_mul_of_one_le_of_one_le hone hpow))
    · split
      · rename_i hk
        have hlt : (m : ℚ) * 10 ^ k ≤ tiny := calc
          (m : ℚ) * 10 ^ k ≤ 10 ^ (digits : ℤ) * 10 ^ k := by
            refine mul_le_mul_of_nonneg_right ?_ (zpow_pos hten k).le
            exact_mod_cast hm.le
          _ = 10 ^ (k + digits) := by rw [← zpow_add₀ hten.ne', add_comm]
          _ ≤ tiny := tenPow_le_tiny (by omega)
        rw [isPositive_ofMagnitude (Nat.zero_le _)]
        simp [hlt]
      · rw [isPositive_nearest (Number.tenTo_pos _).ne', zpow_eq_div hten.ne' k, ← mul_div_assoc]
        simp [Number.tenTo]

end Binary64
end SchemaChange
