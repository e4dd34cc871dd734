import Mathlib.Algebra.BigOperators.Intervals
import Mathlib.Algebra.Order.BigOperators.Group.Finset
import Mathlib.Data.Prod.Lex
import Mathlib.Order.Interval.Finset.Nat
import SchemaChange.Proofs.Statement.Definition
import SchemaChange.Proofs.Text.Utf8
import SchemaChange.Sqlite.Cell

/-!
# Timestamps in order

A timestamp is bound as text, and texts are ordered byte by byte. Within the years of four digits this is
the order of time. Each field is written in a fixed number of digits, so the first field that differs
decides. A fraction is written in groups of three digits as far as they are not zero, and what is left out
is before what is not. A leap second shows in the seconds, which no other moment of its minute reaches.

* `Timestamp.moment`: what is earlier, by date, second of the day and nanosecond;
* `Timestamp.moment_lt_iff`: the earlier timestamp has the text that comes first;
* `Timestamp.text_injective`, `Dialect.timestampLiteral_injective`: no two share a text or a literal;
* `Sqlite.Cell.timestamps_ordered`: stored timestamps are in the order of time.
-/

namespace SchemaChange

namespace Timestamp

/-! ## Digits in order -/

/-- The last digits of a number, as many as the width. -/
def lastDigits : Nat → Nat → List Char
  | 0, _ => []
  | width + 1, n => lastDigits width (n / 10) ++ [Nat.digitChar (n % 10)]

theorem lastDigits_zero (width : Nat) : lastDigits width 0 = List.replicate width '0' := by
  induction width with
  | zero => rfl
  | succ width ih =>
    rw [lastDigits, Nat.zero_div, ih, List.replicate_succ']
    rfl

/-- A number that has no more digits than the width is written in as many. -/
theorem padded_eq_lastDigits {width n : Nat} (hwidth : 0 < width) (hn : n < 10 ^ width) :
    padded width n = lastDigits width n := by
  induction width generalizing n with
  | zero => exact absurd hwidth (Nat.lt_irrefl 0)
  | succ width ih =>
    rcases Nat.lt_or_ge n 10 with hdigit | hten
    · rw [padded, Nat.toDigits_of_lt_base hdigit, lastDigits, Nat.div_eq_of_lt hdigit, lastDigits_zero,
        Nat.mod_eq_of_lt hdigit]
      rfl
    · rw [Nat.pow_succ, ← Nat.div_lt_iff_lt_mul (by decide)] at hn
      have hrest : 0 < width := by
        refine Nat.pos_of_ne_zero fun hzero => ?_
        rw [hzero] at hn
        omega
      rw [lastDigits, ← ih hrest hn, padded, Nat.toDigits_of_base_le (by decide) hten]
      simp [padded]

theorem lastDigits_add_three (width n : Nat) :
    lastDigits (width + 3) n = lastDigits width (n / 1000) ++ lastDigits 3 n := by
  simp [lastDigits, Nat.div_div_eq_div_mul]

theorem digitChar_lt_iff {i j : Nat} (hi : i < 10) (hj : j < 10) :
    Nat.digitChar i < Nat.digitChar j ↔ i < j := by
  have hall : ∀ i < 10, ∀ j < 10, Nat.digitChar i < Nat.digitChar j ↔ i < j := by decide
  exact hall i hi j hj

theorem digitChar_eq_iff {i j : Nat} (hi : i < 10) (hj : j < 10) :
    Nat.digitChar i = Nat.digitChar j ↔ i = j := by
  have hall : ∀ i < 10, ∀ j < 10, Nat.digitChar i = Nat.digitChar j ↔ i = j := by decide
  exact hall i hi j hj

section Base

variable {b x y i j : Nat}

/-- Of two numbers to one base, the leading digits decide before the last one. -/
theorem add_mul_lt_iff (hx : x < b) (hy : y < b) : x + b * i < y + b * j ↔ i < j ∨ i = j ∧ x < y := by
  rcases Nat.lt_trichotomy i j with h | rfl | h
  · have hle := Nat.mul_le_mul_left b (Nat.succ_le_of_lt h)
    rw [Nat.mul_succ] at hle
    omega
  · omega
  · have hle := Nat.mul_le_mul_left b (Nat.succ_le_of_lt h)
    rw [Nat.mul_succ] at hle
    omega

theorem add_mul_eq_iff (hx : x < b) (hy : y < b) : x + b * i = y + b * j ↔ i = j ∧ x = y := by
  have hlt := add_mul_lt_iff hx hy (i := i) (j := j)
  have hgt := add_mul_lt_iff hy hx (i := j) (j := i)
  omega

end Base

/-- Between texts that begin with equally many digits, the digits decide before what follows them. -/
theorem lastDigits_append_lt_iff {width n m : Nat} {s t : List Char} :
    lastDigits width n ++ s < lastDigits width m ++ t ↔
      n % 10 ^ width < m % 10 ^ width ∨ n % 10 ^ width = m % 10 ^ width ∧ s < t := by
  -- The last digit belongs to what follows the others, so the induction is for all that may follow.
  induction width generalizing n m s t with
  | zero => simp [lastDigits, Nat.mod_one]
  | succ width ih =>
    have hn := Nat.mod_lt n (show 0 < 10 by decide)
    have hm := Nat.mod_lt m (show 0 < 10 by decide)
    have hsplit (k : Nat) : k % 10 ^ (width + 1) = k % 10 + 10 * (k / 10 % 10 ^ width) := by
      rw [Nat.pow_succ', Nat.mod_mul]
    rw [hsplit n, hsplit m, add_mul_lt_iff hn hm, add_mul_eq_iff hn hm, or_assoc, and_assoc,
      ← and_or_left, lastDigits, lastDigits, List.append_assoc, List.append_assoc,
      List.singleton_append, List.singleton_append, ih, List.cons_lt_cons_iff, digitChar_lt_iff hn hm,
      digitChar_eq_iff hn hm]

/-- The same for numbers that are written in full. -/
theorem padded_append_lt_iff {width n m : Nat} {s t : List Char} (hwidth : 0 < width)
    (hn : n < 10 ^ width) (hm : m < 10 ^ width) :
    padded width n ++ s < padded width m ++ t ↔ n < m ∨ n = m ∧ s < t := by
  rw [padded_eq_lastDigits hwidth hn, padded_eq_lastDigits hwidth hm, lastDigits_append_lt_iff,
    Nat.mod_eq_of_lt hn, Nat.mod_eq_of_lt hm]

/-! ## Fractions in order -/

/-- The last groups of three digits of a number, from the first of the given count of them to the last
    that is not zero. -/
def lastGroups : Nat → Nat → List Char
  | 0, _ => []
  | count + 1, n =>
    if n % 1000 ^ (count + 1) = 0 then []
    else lastDigits 3 (n / 1000 ^ count) ++ lastGroups count n

theorem lastGroups_of_eq {count n : Nat} (h : n % 1000 ^ count = 0) : lastGroups count n = [] := by
  cases count with
  | zero => rfl
  | succ count => exact if_pos h

theorem lastGroups_of_ne {count n : Nat} (h : n % 1000 ^ (count + 1) ≠ 0) :
    lastGroups (count + 1) n = lastDigits 3 (n / 1000 ^ count) ++ lastGroups count n :=
  if_neg h

/-- Groups that are left out are before all others, so the numbers decide. -/
theorem lastGroups_lt_iff {count n m : Nat} :
    lastGroups count n < lastGroups count m ↔ n % 1000 ^ count < m % 1000 ^ count := by
  induction count with
  | zero => simp [lastGroups, Nat.mod_one]
  | succ count ih =>
    -- A text that ends here has nothing but zeros left, and is before all that go on.
    by_cases hm : m % 1000 ^ (count + 1) = 0
    · rw [lastGroups_of_eq hm, hm]
      exact iff_of_false (List.not_lt_nil _) (Nat.not_lt_zero _)
    by_cases hn : n % 1000 ^ (count + 1) = 0
    · rw [lastGroups_of_eq hn, hn, lastGroups_of_ne hm]
      exact iff_of_true (by simp [lastDigits]) (Nat.pos_of_ne_zero hm)
    have hpos : 0 < 1000 ^ count := Nat.pow_pos (by decide)
    have hsplit (k : Nat) :
        k % 1000 ^ (count + 1) = k % 1000 ^ count + 1000 ^ count * (k / 1000 ^ count % 10 ^ 3) := by
      rw [Nat.pow_succ, Nat.mod_mul]
      rfl
    rw [hsplit n, hsplit m, add_mul_lt_iff (Nat.mod_lt n hpos) (Nat.mod_lt m hpos), lastGroups_of_ne hn,
      lastGroups_of_ne hm, lastDigits_append_lt_iff, ih]

/-- A fraction is a point and its groups of three digits. -/
theorem fractionText_of_ne {n : Nat} (h : n < oneSecond) (hzero : n ≠ 0) :
    fractionText n = '.' :: lastGroups 3 n := by
  have hnine : n < 10 ^ 9 := h
  have hfirst : n % 1000 ^ 3 ≠ 0 := by omega
  rw [fractionText, if_neg hzero, lastGroups_of_ne hfirst]
  -- Three, six and nine digits are one, two and three groups.
  change (if n % 1000 ^ 2 = 0 then '.' :: padded 3 (n / 1000 ^ 2)
    else if n % 1000 ^ 1 = 0 then '.' :: padded 6 (n / 1000 ^ 1) else '.' :: padded 9 n) = _
  by_cases hsecond : n % 1000 ^ 2 = 0
  · have hthree : n / 1000 ^ 2 < 10 ^ 3 := by omega
    rw [if_pos hsecond, padded_eq_lastDigits (by decide) hthree, lastGroups_of_eq hsecond,
      List.append_nil]
  rw [if_neg hsecond, lastGroups_of_ne hsecond]
  by_cases hthird : n % 1000 ^ 1 = 0
  · have hsix : n / 1000 ^ 1 < 10 ^ 6 := by omega
    rw [if_pos hthird, padded_eq_lastDigits (by decide) hsix, lastDigits_add_three 3,
      Nat.div_div_eq_div_mul, lastGroups_of_eq hthird, List.append_nil]
    rfl
  · rw [if_neg hthird, padded_eq_lastDigits (by decide) hnine, lastDigits_add_three 6,
      lastDigits_add_three 3, Nat.div_div_eq_div_mul, lastGroups_of_ne hthird, lastGroups, Nat.pow_zero,
      Nat.div_one, List.append_nil, List.append_assoc]
    rfl

/-- The smaller fraction has the text that comes first. -/
theorem fractionText_lt_iff {n m : Nat} (hn : n < oneSecond) (hm : m < oneSecond) :
    fractionText n < fractionText m ↔ n < m := by
  by_cases hmzero : m = 0
  · rw [hmzero]
    exact iff_of_false (List.not_lt_nil _) (Nat.not_lt_zero n)
  rw [fractionText_of_ne hm hmzero]
  by_cases hnzero : n = 0
  · rw [hnzero]
    exact iff_of_true (List.nil_lt_cons _ _) (Nat.pos_of_ne_zero hmzero)
  have hn' : n % 1000 ^ 3 = n := Nat.mod_eq_of_lt hn
  have hm' : m % 1000 ^ 3 = m := Nat.mod_eq_of_lt hm
  rw [fractionText_of_ne hn hnzero, List.cons_lt_cons_self, lastGroups_lt_iff, hn', hm']

/-! ## Moments in order -/

/-- The number of a day in its year, from 1 on. -/
def dayOfYear (t : Timestamp) : Nat :=
  ∑ month ∈ Finset.Ico 1 t.month, daysInMonth t.year month + t.day

/-- The seconds that the day had before, a leap second counted as the one before it. -/
def secondOfDay (t : Timestamp) : Nat :=
  (t.hour * 60 + t.minute) * 60 + t.second

/-- What is earlier: date, second of the day and nanosecond, in this order. The nanoseconds of a leap
    second come after those of the second before it. -/
def moment (t : Timestamp) : ℤ ×ₗ ℕ ×ₗ ℕ ×ₗ ℕ :=
  toLex (t.year, toLex (t.dayOfYear, toLex (t.secondOfDay, t.nanosecond)))

section Fields

variable (t : Timestamp) {a b : Timestamp}

theorem daysInMonth_le (year : Int) (month : Nat) : daysInMonth year month ≤ 31 := by
  unfold daysInMonth
  split_ifs <;> decide

/-- The seconds that are shown are one more only in a leap second. -/
theorem nanosecond_div : t.nanosecond / oneSecond = 0 ∨ t.second = 59 ∧ t.nanosecond / oneSecond = 1 := by
  obtain ⟨-, -, -, -, -, -, -, -, -, hnanosecond⟩ := t.valid
  unfold oneSecond at hnanosecond ⊢
  split at hnanosecond <;> omega

/-- What is shown after the year has two digits. -/
theorem shown_lt : t.month < 10 ^ 2 ∧ t.day < 10 ^ 2 ∧ t.hour < 10 ^ 2 ∧ t.minute < 10 ^ 2 ∧
    t.second + t.nanosecond / oneSecond < 10 ^ 2 := by
  obtain ⟨-, -, -, hmonth, -, hday, hhour, hminute, hsecond, -⟩ := t.valid
  have hlast := daysInMonth_le t.year t.month
  have hleap := t.nanosecond_div
  omega

theorem dayOfYear_lt (hyear : a.year = b.year)
    (h : a.month < b.month ∨ a.month = b.month ∧ a.day < b.day) : a.dayOfYear < b.dayOfYear := by
  rw [dayOfYear, dayOfYear, hyear]
  rcases h with hmonth | ⟨hmonth, hday⟩
  · -- The earlier month is over before the later one begins.
    obtain ⟨-, -, hmonths, -, -, hlast, -⟩ := a.valid
    obtain ⟨-, -, -, -, hfirst, -⟩ := b.valid
    have hover : ∑ month ∈ Finset.Ico 1 (a.month + 1), daysInMonth b.year month ≤
        ∑ month ∈ Finset.Ico 1 b.month, daysInMonth b.year month :=
      Finset.sum_le_sum_of_subset (Finset.Ico_subset_Ico_right hmonth)
    rw [Finset.sum_Ico_succ_top hmonths] at hover
    rw [hyear] at hlast
    omega
  · rw [hmonth]
    exact Nat.add_lt_add_left hday _

/-- The days of a year are ordered by month and day. -/
theorem dayOfYear_lt_iff (hyear : a.year = b.year) :
    a.dayOfYear < b.dayOfYear ↔ a.month < b.month ∨ a.month = b.month ∧ a.day < b.day := by
  refine ⟨fun h => ?_, dayOfYear_lt hyear⟩
  by_contra hnot
  rcases (by omega : b.month < a.month ∨ b.month = a.month ∧ b.day < a.day ∨
      a.month = b.month ∧ a.day = b.day) with hlater | hlater | ⟨hmonth, hday⟩
  · exact Nat.lt_asymm h (dayOfYear_lt hyear.symm (.inl hlater))
  · exact Nat.lt_asymm h (dayOfYear_lt hyear.symm (.inr hlater))
  · rw [dayOfYear, dayOfYear, hyear, hmonth, hday] at h
    exact Nat.lt_irrefl _ h

theorem dayOfYear_eq_iff (hyear : a.year = b.year) :
    a.dayOfYear = b.dayOfYear ↔ a.month = b.month ∧ a.day = b.day := by
  have hlt := dayOfYear_lt_iff hyear
  have hgt := dayOfYear_lt_iff hyear.symm
  omega

/-- A moment of the day is ordered by what the clock shows, also within a leap second. -/
theorem clock_lt_iff :
    a.secondOfDay < b.secondOfDay ∨ a.secondOfDay = b.secondOfDay ∧ a.nanosecond < b.nanosecond ↔
      a.hour < b.hour ∨ a.hour = b.hour ∧ (a.minute < b.minute ∨ a.minute = b.minute ∧
        (a.second + a.nanosecond / oneSecond < b.second + b.nanosecond / oneSecond ∨
          a.second + a.nanosecond / oneSecond = b.second + b.nanosecond / oneSecond ∧
            a.nanosecond % oneSecond < b.nanosecond % oneSecond)) := by
  -- Only the last second of a minute may be shown as 60, so it stays before the next minute.
  obtain ⟨-, -, -, -, -, -, -, hminute, hsecond, -⟩ := a.valid
  obtain ⟨-, -, -, -, -, -, -, hminute', hsecond', -⟩ := b.valid
  have hleap := a.nanosecond_div
  have hleap' := b.nanosecond_div
  unfold secondOfDay oneSecond at *
  omega

theorem moment_injective (h : a.moment = b.moment) : a = b := by
  have hfields : a.year = b.year ∧ a.dayOfYear = b.dayOfYear ∧ a.secondOfDay = b.secondOfDay ∧
      a.nanosecond = b.nanosecond := by
    simpa [moment] using h
  obtain ⟨hyear, hday, hsecond, hnanosecond⟩ := hfields
  obtain ⟨hmonth, hday⟩ := (dayOfYear_eq_iff hyear).1 hday
  obtain ⟨-, -, -, -, -, -, -, hminutes, hseconds, -⟩ := a.valid
  obtain ⟨-, -, -, -, -, -, -, hminutes', hseconds', -⟩ := b.valid
  unfold secondOfDay at hsecond
  cases a
  cases b
  simp only [mk.injEq] at *
  omega

end Fields

/-! ## Texts in order -/

section Texts

variable {t a b : Timestamp}

/-- The year has four digits. -/
def HasPlainYear (t : Timestamp) : Prop :=
  0 ≤ t.year ∧ t.year ≤ 9999

instance : DecidablePred HasPlainYear := fun _ => inferInstanceAs (Decidable (_ ∧ _))

theorem HasPlainYear.year_lt (h : t.HasPlainYear) : t.year.toNat < 10 ^ 4 := by
  unfold HasPlainYear at h
  omega

theorem HasPlainYear.toList_text (h : t.HasPlainYear) :
    t.text.toList = padded 4 t.year.toNat ++ '-' :: (padded 2 t.month ++ '-' :: (padded 2 t.day ++
      ' ' :: (padded 2 t.hour ++ ':' :: (padded 2 t.minute ++
        ':' :: (padded 2 (t.second + t.nanosecond / oneSecond) ++
          fractionText (t.nanosecond % oneSecond)))))) := by
  have hyear : yearText t.year = padded 4 t.year.toNat := if_pos h
  rw [text, textWith, String.toList_ofList, hyear]
  simp only [List.append_assoc, List.cons_append, List.nil_append]

/-- The earlier timestamp has the text that comes first. -/
theorem moment_lt_iff (ha : a.HasPlainYear) (hb : b.HasPlainYear) :
    a.moment < b.moment ↔ a.text.toList < b.text.toList := by
  have hyear : a.year.toNat < b.year.toNat ↔ a.year < b.year := by
    unfold HasPlainYear at ha hb
    omega
  have hyear' : a.year.toNat = b.year.toNat ↔ a.year = b.year := by
    unfold HasPlainYear at ha hb
    omega
  obtain ⟨hmonth, hday, hhour, hminute, hsecond⟩ := a.shown_lt
  obtain ⟨hmonth', hday', hhour', hminute', hsecond'⟩ := b.shown_lt
  -- The fields in turn, each of them followed by the same mark.
  rw [ha.toList_text, hb.toList_text, padded_append_lt_iff (by decide) ha.year_lt hb.year_lt,
    List.cons_lt_cons_self, padded_append_lt_iff (by decide) hmonth hmonth',
    List.cons_lt_cons_self, padded_append_lt_iff (by decide) hday hday',
    List.cons_lt_cons_self, padded_append_lt_iff (by decide) hhour hhour',
    List.cons_lt_cons_self, padded_append_lt_iff (by decide) hminute hminute',
    List.cons_lt_cons_self, padded_append_lt_iff (by decide) hsecond hsecond',
    fractionText_lt_iff (Nat.mod_lt _ (by decide)) (Nat.mod_lt _ (by decide)), ← clock_lt_iff, hyear,
    hyear']
  rw [moment, moment, Prod.Lex.toLex_lt_toLex, Prod.Lex.toLex_lt_toLex, Prod.Lex.toLex_lt_toLex]
  refine or_congr_right (and_congr_right fun hsame => ?_)
  rw [dayOfYear_lt_iff hsame, dayOfYear_eq_iff hsame, or_assoc, and_assoc, ← and_or_left]

/-- No two timestamps share a text. -/
theorem text_injective (ha : a.HasPlainYear) (hb : b.HasPlainYear) (h : a.text = b.text) : a = b := by
  refine moment_injective (le_antisymm (not_lt.1 fun hlt => ?_) (not_lt.1 fun hlt => ?_))
  · rw [moment_lt_iff hb ha, h] at hlt
    exact List.lt_irrefl _ hlt
  · rw [moment_lt_iff ha hb, h] at hlt
    exact List.lt_irrefl _ hlt

end Texts

end Timestamp

/-! ## Literals -/

namespace Dialect

/-- The text of a timestamp stands between quotes as it is, so its literals are told apart by it. -/
theorem timestampLiteral_injective {d : Dialect} {a b : Timestamp}
    (h : d.timestampLiteral a = d.timestampLiteral b) : a.text = b.text := by
  have hquoted (t : Timestamp) : textLiteral t.text = "'" ++ t.text ++ "'" :=
    textLiteral_of_notMem (t.not_mem_text rfl (by decide))
  have hlists := congrArg String.toList h
  cases d <;> exact String.toList_injective (by simpa [timestampLiteral, hquoted] using hlists)

end Dialect

/-! ## Stored timestamps -/

namespace Sqlite.Cell

/-- Whether the cell is a text and comes before another text, byte by byte. -/
def isTextBefore : Cell → Cell → Bool
  | text bs, text bs' => decide (bs < bs')
  | _, _ => false

theorem isTextBefore_timestamp {a b : Timestamp} (ha : a.HasPlainYear) (hb : b.HasPlainYear) :
    isTextBefore (ofValue (.timestamp a)) (ofValue (.timestamp b)) = decide (a.moment < b.moment) := by
  change decide (Text.utf8 a.text.toList < Text.utf8 b.text.toList) = _
  exact decide_eq_decide.2 (Text.utf8_lt_iff.trans (Timestamp.moment_lt_iff ha hb).symm)

/-- Stored timestamps are in the order of time. -/
theorem timestamps_ordered (ts : List Timestamp) (hts : ∀ t ∈ ts, t.HasPlainYear) :
    (∀ a ∈ ts, ∀ b ∈ ts,
      (a.moment < b.moment ↔ isTextBefore (ofValue (.timestamp a)) (ofValue (.timestamp b)) = true) ∧
      (a ≠ b → a.text ≠ b.text ∧ ofValue (.timestamp a) ≠ ofValue (.timestamp b) ∧
        ∀ d : Dialect, d.literal? (.timestamp a) ≠ d.literal? (.timestamp b))) ∧
    (ts.map fun t => ofValue (.timestamp t)).mergeSort (fun c c' => !isTextBefore c' c) =
      (ts.mergeSort fun a b => a.moment ≤ b.moment).map fun t => ofValue (.timestamp t) := by
  refine ⟨fun a ha b hb => ⟨?_, fun hne => ?_⟩, ?_⟩
  · rw [isTextBefore_timestamp (hts a ha) (hts b hb), decide_eq_true_iff]
  · have htext : a.text ≠ b.text := fun h => hne (Timestamp.text_injective (hts a ha) (hts b hb) h)
    refine ⟨htext, fun hcell => htext ?_, fun d hliteral => htext ?_⟩
    · have hbytes : Text.utf8 a.text.toList = Text.utf8 b.text.toList := Cell.text.inj hcell
      have hread := congrArg Text.tolerantText hbytes
      rw [Text.tolerantText_utf8, Text.tolerantText_utf8] at hread
      exact String.toList_injective hread
    · exact Dialect.timestampLiteral_injective (Option.some.inj hliteral)
  · refine (List.map_mergeSort fun a ha b hb => ?_).symm
    rw [isTextBefore_timestamp (hts b hb) (hts a ha), ← decide_not, decide_eq_decide, not_lt]

/-- A leap second shows as second 60, and its text is before that of the next day. -/
theorem timestamps_ordered_leapSecond :
    let leap : Timestamp := ⟨2016, 12, 31, 23, 59, 59, 1500000000, by decide⟩
    let next : Timestamp := ⟨2017, 1, 1, 0, 0, 0, 0, by decide⟩
    leap.text = "2016-12-31 23:59:60.500" ∧ next.text = "2017-01-01 00:00:00" ∧
      isTextBefore (ofValue (.timestamp leap)) (ofValue (.timestamp next)) = true ∧
      ∀ d : Dialect, d.literal? (.timestamp leap) ≠ d.literal? (.timestamp next) := by
  intro leap next
  obtain ⟨hbefore, hapart⟩ :=
    (timestamps_ordered [next, leap] (by decide)).1 leap (by simp) next (by simp)
  have hmoment : leap.moment < next.moment := by
    rw [Timestamp.moment, Timestamp.moment, Prod.Lex.toLex_lt_toLex]
    exact .inl (by decide)
  exact ⟨by cbv, by cbv, hbefore.1 hmoment, (hapart (by decide)).2.2⟩

end Sqlite.Cell

end SchemaChange
