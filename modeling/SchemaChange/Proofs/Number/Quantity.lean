import Mathlib.Tactic.FieldSimp
import Mathlib.Tactic.Ring
import SchemaChange.Proofs.Number.Nearest
import SchemaChange.Proofs.Number.Numeral

/-!
# What numbers mean

The grammar of numerals says which texts are numbers, and here it says of which ratios. Besides them there are
the words: for what is beyond all ratios on one side, and for no number at all. The number of 64 bits that is
read for a text is above zero if what the text means is so, unless that is so near to zero that it is rounded
to it (`Binary64.tiny`).

* `isNumeral_iff`: every numeral means a ratio;
* `Text.Denotes`, `Value.Denotes`: what a text and a value mean as numbers, if anything;
* `Value.Denotes.unique`: they mean one thing;
* `Binary64.read?_of_denotes`, `Binary64.isPositive_iff`: what is above zero.
-/

namespace SchemaChange

/-- What a number means: a ratio, what is beyond all ratios on one side, or nothing. -/
inductive Quantity where
  | finite (q : ℚ)
  | infinite (negative : Bool)
  | undefined

/-- The quantity is above a ratio. -/
def Quantity.Exceeds : Quantity → ℚ → Prop
  | finite q, bound => bound < q
  | infinite negative, _ => negative = false
  | undefined, _ => False

/-- A number behind a sign. -/
def withSign {α : Type} [Neg α] (negative : Bool) (a : α) : α :=
  if negative then -a else a

/-! ## Numerals -/

/-- The whole number that digits make up. -/
def ofDigits (digits : List Char) : Nat :=
  Nat.ofDigitChars 10 digits 0

/-- A sign, or none, and whether it is a minus. -/
inductive IsSignOf : List Char → Bool → Prop
  | none : IsSignOf [] false
  | plus : IsSignOf ['+'] false
  | minus : IsSignOf ['-'] true

/-- The digits of a numeral, and the ratio that they make up. -/
inductive IsMantissaOf : List Char → ℚ → Prop
  | whole {digits : List Char} : IsDigits digits → IsMantissaOf digits (ofDigits digits)
  | pointed {digits fraction : List Char} : IsDigits digits → (∀ c ∈ fraction, c.isDigit = true) →
      IsMantissaOf (digits ++ '.' :: fraction) (ofDigits digits + ofDigits fraction / 10 ^ fraction.length)
  | fraction {fraction : List Char} : IsDigits fraction →
      IsMantissaOf ('.' :: fraction) (ofDigits fraction / 10 ^ fraction.length)

/-- An exponent, or none, and the power of ten that it stands for. -/
inductive IsExponentOf : List Char → ℤ → Prop
  | none : IsExponentOf [] 0
  | some {c : Char} {sign digits : List Char} {negative : Bool} : c = 'e' ∨ c = 'E' →
      IsSignOf sign negative → IsDigits digits →
      IsExponentOf (c :: (sign ++ digits)) (withSign negative (ofDigits digits))

/-- A number as SQL writes it, and the ratio that it means. -/
inductive IsNumeralOf : List Char → ℚ → Prop
  | mk {sign mantissa exponent : List Char} {negative : Bool} {m : ℚ} {k : ℤ} :
      IsSignOf sign negative → IsMantissaOf mantissa m → IsExponentOf exponent k →
      IsNumeralOf (sign ++ (mantissa ++ exponent)) (withSign negative (m * 10 ^ k))

variable {s t sign digits mantissa exponent : List Char} {negative : Bool} {m q : ℚ} {k : ℤ}

theorem isSign_iff : IsSign s ↔ ∃ negative, IsSignOf s negative := by
  constructor
  · rintro (_ | _ | _)
    · exact ⟨_, .none⟩
    · exact ⟨_, .plus⟩
    · exact ⟨_, .minus⟩
  · rintro ⟨_, _ | _ | _⟩
    · exact .none
    · exact .plus
    · exact .minus

theorem isMantissa_iff : IsMantissa s ↔ ∃ m, IsMantissaOf s m := by
  constructor
  · rintro (h | ⟨h, h'⟩ | h)
    · exact ⟨_, .whole h⟩
    · exact ⟨_, .pointed h h'⟩
    · exact ⟨_, .fraction h⟩
  · rintro ⟨_, h | ⟨h, h'⟩ | h⟩
    · exact .whole h
    · exact .pointed h h'
    · exact .fraction h

theorem isExponent_iff : IsExponent s ↔ ∃ k, IsExponentOf s k := by
  constructor
  · rintro (_ | ⟨hletter, hsign, hdigits⟩)
    · exact ⟨_, .none⟩
    · obtain ⟨_, hsign⟩ := isSign_iff.1 hsign
      exact ⟨_, .some hletter hsign hdigits⟩
  · rintro ⟨_, _ | ⟨hletter, hsign, hdigits⟩⟩
    · exact .none
    · exact .some hletter (isSign_iff.2 ⟨_, hsign⟩) hdigits

/-- Every numeral means a ratio. -/
theorem isNumeral_iff : IsNumeral s ↔ ∃ q, IsNumeralOf s q := by
  constructor
  · rintro ⟨hsign, hmantissa, hexponent⟩
    obtain ⟨_, hsign⟩ := isSign_iff.1 hsign
    obtain ⟨_, hmantissa⟩ := isMantissa_iff.1 hmantissa
    obtain ⟨_, hexponent⟩ := isExponent_iff.1 hexponent
    exact ⟨_, .mk hsign hmantissa hexponent⟩
  · rintro ⟨_, hsign, hmantissa, hexponent⟩
    exact .mk (isSign_iff.2 ⟨_, hsign⟩)
      (.mk (isMantissa_iff.2 ⟨_, hmantissa⟩) (isExponent_iff.2 ⟨_, hexponent⟩))

/-! ## Digits -/

theorem ofDigitChars_eq (s : List Char) (n : Nat) :
    Nat.ofDigitChars 10 s n = n * 10 ^ s.length + ofDigits s := by
  induction s generalizing n with
  | nil => simp [ofDigits, Nat.ofDigitChars_eq_foldl]
  | cons c s ih =>
    rw [ofDigits, Nat.ofDigitChars_cons, Nat.ofDigitChars_cons, ih, ih (10 * 0 + _), List.length_cons,
      pow_succ]
    ring

theorem ofDigits_append (s t : List Char) :
    ofDigits (s ++ t) = ofDigits s * 10 ^ t.length + ofDigits t := by
  rw [ofDigits, Nat.ofDigitChars_append, ofDigitChars_eq]
  rfl

theorem ofDigits_lt (h : ∀ c ∈ s, c.isDigit = true) : ofDigits s < 10 ^ s.length := by
  induction s with
  | nil => decide
  | cons c s ih =>
    obtain ⟨hc, hs⟩ := List.forall_mem_cons.1 h
    have hdigit : c.toNat - '0'.toNat ≤ 9 := by
      rw [Char.isDigit, Bool.and_eq_true, decide_eq_true_eq, decide_eq_true_eq] at hc
      have hle : c.toNat ≤ '9'.toNat := hc.2
      have hnine : '9'.toNat = '0'.toNat + 9 := rfl
      omega
    have hrest := ih hs
    rw [ofDigits, Nat.ofDigitChars_cons, ofDigitChars_eq, List.length_cons, pow_succ, Nat.mul_zero,
      Nat.zero_add]
    nlinarith [Nat.mul_le_mul_right (10 ^ s.length) hdigit]

/-- Digits around a point make up a ratio. -/
theorem ofDigits_pointed (s t : List Char) :
    (ofDigits s + ofDigits t / 10 ^ t.length : ℚ) = ofDigits (s ++ t) / 10 ^ t.length := by
  rw [ofDigits_append]
  push_cast
  field_simp

/-! ## What is read -/

theorem IsMantissaOf.nonneg (h : IsMantissaOf mantissa m) : 0 ≤ m := by
  cases h <;> positivity

/-- The digits before a point and those behind it, and all of them make up the ratio. -/
theorem IsMantissaOf.split (h : IsMantissaOf mantissa m) (hend : IsExponent exponent) :
    ∃ whole fraction rest, Binary64.splitDigits (mantissa ++ exponent) = (whole, rest) ∧
      Binary64.splitFraction rest = (fraction, exponent) ∧ whole ++ fraction ≠ [] ∧
      (∀ c ∈ whole ++ fraction, c.isDigit = true) ∧
      m = ofDigits (whole ++ fraction) / 10 ^ fraction.length := by
  have hstart := hend.noLeadingDigit
  cases h with
  | whole hdigits =>
    refine ⟨mantissa, [], exponent, Binary64.splitDigits_of_append hdigits.isDigit hstart,
      hend.splitFraction_eq, ?_, ?_, ?_⟩
    · rw [List.append_nil]
      exact hdigits.nonempty
    · rw [List.append_nil]
      exact hdigits.isDigit
    · simp
  | @pointed digits fraction hdigits hfraction =>
    refine ⟨digits, fraction, '.' :: (fraction ++ exponent), ?_, ?_, ?_, ?_, ofDigits_pointed _ _⟩
    · rw [List.append_assoc, List.cons_append]
      exact Binary64.splitDigits_of_append hdigits.isDigit noLeadingDigit_point
    · exact Binary64.splitDigits_of_append hfraction hstart
    · exact List.append_ne_nil_of_left_ne_nil hdigits.nonempty _
    · exact List.forall_mem_append.2 ⟨hdigits.isDigit, hfraction⟩
  | @fraction fraction hfraction =>
    refine ⟨[], fraction, '.' :: (fraction ++ exponent), ?_, ?_, hfraction.nonempty, hfraction.isDigit, rfl⟩
    · exact Binary64.splitDigits_of_append (List.forall_mem_nil _) noLeadingDigit_point
    · exact Binary64.splitDigits_of_append hfraction.isDigit hstart

namespace Binary64

theorem splitSign_of_append (hsign : IsSignOf sign negative) (h : NoLeadingSign s) :
    splitSign (sign ++ s) = (negative, s) := by
  have hrest := splitSign_append (isSign_iff.2 ⟨_, hsign⟩) h
  cases hsign with
  | plus | minus => rfl
  | none =>
    cases s with
    | nil => rfl
    | cons c s =>
      obtain ⟨hplus, hminus⟩ := h c rfl
      rw [List.nil_append]
      unfold splitSign
      split <;> simp_all

theorem noLeadingSign_of_isDigits (h : IsDigits digits) : NoLeadingSign digits := by
  intro c hc
  have hdigit := h.isDigit c (List.mem_of_mem_head? hc)
  constructor <;> rintro rfl <;> cases hdigit

theorem readExponent?_of_isExponentOf (h : IsExponentOf s k) : readExponent? s = some k := by
  cases h with
  | none => rfl
  | @some c sign digits negative hletter hsign hdigits =>
    have hall : (!digits.isEmpty && digits.all Char.isDigit) = true := by
      rw [Bool.and_eq_true, Bool.not_eq_true', List.isEmpty_eq_false_iff, List.all_eq_true]
      exact ⟨hdigits.nonempty, hdigits.isDigit⟩
    rw [readExponent?, if_pos hletter, splitSign_of_append hsign (noLeadingSign_of_isDigits hdigits)]
    exact if_pos hall

/-- The number that is read for digits and an exponent is above zero if what they mean is so by far. -/
theorem readDigits?_eq (negative : Bool) (hmantissa : IsMantissaOf mantissa m)
    (hexponent : IsExponentOf exponent k) :
    ∃ x, readDigits? negative (mantissa ++ exponent) = some x ∧
      (x.isPositive = true ↔ negative = false ∧ tiny < m * 10 ^ k) := by
  obtain ⟨whole, fraction, rest, hwhole, hfraction, hne, hdigits, rfl⟩ :=
    hmantissa.split (isExponent_iff.2 ⟨_, hexponent⟩)
  refine ⟨ofDecimal negative (ofDigits (whole ++ fraction)) (whole ++ fraction).length
    (k - fraction.length), ?_, ?_⟩
  · simp [readDigits?, hwhole, hfraction, readExponent?_of_isExponentOf hexponent, ofDigits]
    simpa using hne
  · have hpow : (10 : ℚ) ^ (k - fraction.length) = 10 ^ k / 10 ^ fraction.length := by
      rw [zpow_sub₀ (by norm_num), zpow_natCast]
    rw [isPositive_ofDecimal (ofDigits_lt hdigits), hpow, mul_div_assoc', div_mul_eq_mul_div]

/-- The number that is read for a numeral is above zero if what it means is so by far. -/
theorem read?_of_isNumeralOf (h : IsNumeralOf s q) :
    ∃ x, read? s = some x ∧ (x.isPositive = true ↔ tiny < q) := by
  obtain @⟨sign, mantissa, exponent, negative, m, k, hsign, hmantissa, hexponent⟩ := h
  have hunsigned : IsUnsigned (mantissa ++ exponent) :=
    .mk (isMantissa_iff.2 ⟨_, hmantissa⟩) (isExponent_iff.2 ⟨_, hexponent⟩)
  have hword : ¬IsNumberWord (mantissa ++ exponent) := fun hword =>
    (IsNumeral.mk .none hunsigned).not_isSpecial (.mk .none hword)
  rw [IsNumberWord, ← or_assoc, not_or] at hword
  obtain ⟨x, hx, hpositive⟩ := readDigits?_eq negative hmantissa hexponent
  refine ⟨x, ?_, hpositive.trans ?_⟩
  · rw [read?, splitSign_of_append hsign hunsigned.noLeadingSign]
    simp only [if_neg hword.1, if_neg hword.2, hx]
  · cases negative with
    | false => exact and_iff_right rfl
    | true =>
      -- A number behind a minus is at most zero.
      have hnonneg : 0 ≤ m * (10 : ℚ) ^ k := mul_nonneg hmantissa.nonneg (by positivity)
      have hle : withSign true (m * (10 : ℚ) ^ k) ≤ tiny :=
        (neg_nonpos.2 hnonneg).trans tiny_pos.le
      exact iff_of_false (fun h => Bool.false_ne_true h.1.symm) hle.not_gt

end Binary64

/-- The ratio that a numeral is read for, before it is rounded. -/
def Binary64.exactly? (s : List Char) : Option ℚ :=
  let (negative, s) := splitSign s
  let (whole, s) := splitDigits s
  let (fraction, s) := splitFraction s
  (readExponent? s).map fun k =>
    withSign negative (ofDigits (whole ++ fraction) / 10 ^ fraction.length * 10 ^ k)

theorem IsNumeralOf.exactly?_eq (h : IsNumeralOf s q) : Binary64.exactly? s = some q := by
  obtain @⟨sign, mantissa, exponent, negative, m, k, hsign, hmantissa, hexponent⟩ := h
  have hend := isExponent_iff.2 ⟨_, hexponent⟩
  have hunsigned : IsUnsigned (mantissa ++ exponent) := .mk (isMantissa_iff.2 ⟨_, hmantissa⟩) hend
  obtain ⟨whole, fraction, rest, hwhole, hfraction, -, -, rfl⟩ := hmantissa.split hend
  rw [Binary64.exactly?, Binary64.splitSign_of_append hsign hunsigned.noLeadingSign]
  simp only [hwhole, hfraction, Binary64.readExponent?_of_isExponentOf hexponent, Option.map_some]

/-- A numeral means one ratio. -/
theorem IsNumeralOf.unique {q' : ℚ} (h : IsNumeralOf s q) (h' : IsNumeralOf s q') : q = q' :=
  Option.some.inj (h.exactly?_eq.symm.trans h'.exactly?_eq)

/-! ## Meanings -/

/-- A text means a number: it is a numeral, or one of the words with or without a sign. -/
inductive Text.Denotes : List Char → Quantity → Prop
  | numeral {s : List Char} {q : ℚ} : IsNumeralOf s q → Denotes s (.finite q)
  | infinite {sign word : List Char} {negative : Bool} : IsSignOf sign negative →
      asciiLower word = "inf".toList ∨ asciiLower word = "infinity".toList →
      Denotes (sign ++ word) (.infinite negative)
  | undefined {sign word : List Char} : IsSign sign → asciiLower word = "nan".toList →
      Denotes (sign ++ word) .undefined

theorem Text.exists_denotes_iff : (∃ q, Denotes s q) ↔ IsNumeral s ∨ IsSpecial s := by
  constructor
  · rintro ⟨_, h | ⟨hsign, hword⟩ | ⟨hsign, hword⟩⟩
    · exact .inl (isNumeral_iff.2 ⟨_, h⟩)
    · exact .inr (.mk (isSign_iff.2 ⟨_, hsign⟩) (hword.imp_right .inl))
    · exact .inr (.mk hsign (.inr (.inr hword)))
  · rintro (h | ⟨hsign, hword⟩)
    · obtain ⟨q, hq⟩ := isNumeral_iff.1 h
      exact ⟨_, .numeral hq⟩
    · rcases or_assoc.2 hword with hword | hword
      · obtain ⟨_, hsign⟩ := isSign_iff.1 hsign
        exact ⟨_, .infinite hsign hword⟩
      · exact ⟨_, .undefined hsign hword⟩

namespace Text.Denotes

/-- A text that means a number is a numeral, or a word behind a sign. -/
theorem cases_word {q : Quantity} (h : Denotes s q) :
    (∃ r, q = .finite r ∧ IsNumeralOf s r) ∨
      ∃ negative word, Binary64.splitSign s = (negative, word) ∧ IsSpecial s ∧
        q = if asciiLower word = "nan".toList then .undefined else .infinite negative := by
  cases h with
  | numeral h => exact .inl ⟨_, rfl, h⟩
  | @infinite sign word negative hsign hword =>
    have hnumber : IsNumberWord word := hword.imp_right .inl
    have hnan : asciiLower word ≠ "nan".toList := by
      rcases hword with h | h <;> rw [h] <;> decide
    exact .inr ⟨negative, word, Binary64.splitSign_of_append hsign hnumber.noLeadingSign,
      .mk (isSign_iff.2 ⟨_, hsign⟩) hnumber, (if_neg hnan).symm⟩
  | @undefined sign word hsign hword =>
    have hnumber : IsNumberWord word := .inr (.inr hword)
    obtain ⟨negative, hsign⟩ := isSign_iff.1 hsign
    exact .inr ⟨negative, word, Binary64.splitSign_of_append hsign hnumber.noLeadingSign,
      .mk (isSign_iff.2 ⟨_, hsign⟩) hnumber, (if_pos hword).symm⟩

/-- A text means one number. -/
theorem unique {q q' : Quantity} (h : Denotes s q) (h' : Denotes s q') : q = q' := by
  rcases h.cases_word with ⟨r, rfl, hr⟩ | ⟨negative, word, hsplit, hspecial, rfl⟩ <;>
    rcases h'.cases_word with ⟨r', rfl, hr'⟩ | ⟨negative', word', hsplit', hspecial', rfl⟩
  · rw [hr.unique hr']
  · exact absurd hspecial' (isNumeral_iff.2 ⟨_, hr⟩).not_isSpecial
  · exact absurd hspecial (isNumeral_iff.2 ⟨_, hr'⟩).not_isSpecial
  · obtain ⟨rfl, rfl⟩ := Prod.mk.inj (hsplit.symm.trans hsplit')
    rfl

end Text.Denotes

/-- The number that is read for a text is above zero if what the text means is so by far. -/
theorem Binary64.read?_of_denotes {q : Quantity} (h : Text.Denotes s q) :
    ∃ x, read? s = some x ∧ (x.isPositive = true ↔ q.Exceeds tiny) := by
  cases h with
  | numeral h => exact read?_of_isNumeralOf h
  | @infinite sign word negative hsign hword =>
    refine ⟨Binary64.infinite negative, ?_, isPositive_infinite⟩
    have hstart : IsNumberWord word := hword.imp_right .inl
    rw [read?, splitSign_of_append hsign hstart.noLeadingSign]
    exact if_pos hword
  | @undefined sign word hsign hword =>
    refine ⟨nan, ?_, iff_of_false (by simp [isPositive_nan]) id⟩
    obtain ⟨negative, hsign⟩ := isSign_iff.1 hsign
    have hstart : IsNumberWord word := .inr (.inr hword)
    rw [read?, splitSign_of_append hsign hstart.noLeadingSign]
    simp only [hword]
    rfl

/-- What a number of 64 bits means. -/
def Binary64.quantity (x : Binary64) : Quantity :=
  if x.isNaN then .undefined
  else if x.isFinite then .finite (withSign x.negative (x.significand * 2 ^ x.exponent))
  else .infinite x.negative

namespace Binary64

/-- No finite number but zero is tiny. -/
theorem tiny_lt_iff (x : Binary64) :
    tiny < x.significand * 2 ^ x.exponent ↔ x.significand ≠ 0 := by
  constructor
  · rintro h hzero
    rw [hzero, Nat.cast_zero, zero_mul] at h
    exact absurd h tiny_pos.le.not_gt
  · intro h
    have hone : (1 : ℚ) ≤ x.significand := by exact_mod_cast Nat.one_le_iff_ne_zero.2 h
    have hexponent : -1075 < x.exponent := by
      unfold exponent
      split <;> omega
    calc tiny < 2 ^ x.exponent := zpow_lt_zpow_right₀ one_lt_two hexponent
      _ ≤ x.significand * 2 ^ x.exponent := le_mul_of_one_le_left (by positivity) hone

/-- A number is above zero if what it means is so. -/
theorem isPositive_iff (x : Binary64) : x.isPositive = true ↔ x.quantity.Exceeds tiny := by
  have hzero := x.significand_eq_zero_iff
  unfold quantity
  split
  · simp [isPositive, Quantity.Exceeds, *]
  · split
    · cases hsign : x.negative with
      | false => simp [isPositive, Quantity.Exceeds, withSign, tiny_lt_iff, *]
      | true =>
        have hle : -(x.significand * 2 ^ x.exponent : ℚ) ≤ tiny :=
          (neg_nonpos.2 (by positivity)).trans tiny_pos.le
        simp [isPositive, Quantity.Exceeds, withSign, hsign, hle]
    · -- What is infinite is not zero.
      have hfinite : x.isZero = false := by
        simp_all [isZero, isFinite]
        omega
      simp [isPositive, Quantity.Exceeds, *]

end Binary64

/-- What a value means as a number. Text is read without the blanks around it. -/
inductive Value.Denotes : Value → Quantity → Prop
  | bool (b : Bool) : Denotes (.bool b) (.finite (if b then 1 else 0))
  | int32 (n : Int32) : Denotes (.int32 n) (.finite n.toInt)
  | int64 (n : Int64) : Denotes (.int64 n) (.finite n.toInt)
  | float64 (x : Binary64) : Denotes (.float64 x) x.quantity
  | decimal {s : String} {q : Quantity} : Text.Denotes (Text.trim s.toList) q → Denotes (.decimal s) q
  | text {s : String} {q : Quantity} : Text.Denotes (Text.trim s.toList) q → Denotes (.text s) q

/-- A value means one number. -/
theorem Value.Denotes.unique {v : Value} {q q' : Quantity} (h : v.Denotes q) (h' : v.Denotes q') :
    q = q' := by
  cases h <;> cases h'
  case decimal.decimal h h' => exact h.unique h'
  case text.text h h' => exact h.unique h'
  all_goals rfl

end SchemaChange
