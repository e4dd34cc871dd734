import SchemaChange.Dialect.Literal
import SchemaChange.Proofs.Text.Lines

/-!
# Numerals

The form in which SQL writes a number, as a grammar: a sign, digits with a point among or beside them, and an
exponent. What is read as a number of 64 bits is such a numeral, or one of the words for what is infinite or
no number at all. The literal of an exact number is its text if that can be read, so the words pass for
numbers there.

* `Binary64.read?_isSome_iff`: which texts are read as numbers;
* `Dialect.literal?_decimal`: which exact numbers have a literal;
* `Dialect.literal?_decimal_nan`: one of them is no numeral.
-/

namespace SchemaChange

variable {s t digits sign : List Char} {c : Char}

/-! ## The grammar -/

/-- Digits alone, and at least one. -/
structure IsDigits (s : List Char) : Prop where
  nonempty : s ≠ []
  isDigit : ∀ c ∈ s, c.isDigit = true

/-- A sign, or none. -/
inductive IsSign : List Char → Prop
  | none : IsSign []
  | plus : IsSign ['+']
  | minus : IsSign ['-']

/-- The digits of a numeral: with a point after them or among them, before them or without one. -/
inductive IsMantissa : List Char → Prop
  | whole {digits : List Char} : IsDigits digits → IsMantissa digits
  | pointed {digits fraction : List Char} : IsDigits digits → (∀ c ∈ fraction, c.isDigit = true) →
      IsMantissa (digits ++ '.' :: fraction)
  | fraction {fraction : List Char} : IsDigits fraction → IsMantissa ('.' :: fraction)

/-- An exponent, or none. -/
inductive IsExponent : List Char → Prop
  | none : IsExponent []
  | some {c : Char} {sign digits : List Char} : c = 'e' ∨ c = 'E' → IsSign sign → IsDigits digits →
      IsExponent (c :: (sign ++ digits))

/-- A numeral without its sign. -/
inductive IsUnsigned : List Char → Prop
  | mk {mantissa exponent : List Char} : IsMantissa mantissa → IsExponent exponent →
      IsUnsigned (mantissa ++ exponent)

/-- A number as SQL writes it. -/
inductive IsNumeral : List Char → Prop
  | mk {sign unsigned : List Char} : IsSign sign → IsUnsigned unsigned → IsNumeral (sign ++ unsigned)

/-- A word for what is infinite or no number. -/
def IsNumberWord (s : List Char) : Prop :=
  Text.asciiLower s = "inf".toList ∨ Text.asciiLower s = "infinity".toList ∨
    Text.asciiLower s = "nan".toList

/-- Such a word, with a sign or without one. -/
inductive IsSpecial : List Char → Prop
  | mk {sign word : List Char} : IsSign sign → IsNumberWord word → IsSpecial (sign ++ word)

/-! ## Characters -/

theorem isDigit_of_mem_toDigits {n : Nat} (h : c ∈ Nat.toDigits 10 n) : c.isDigit = true :=
  Nat.isDigit_of_mem_toDigits (by decide) (by decide) h

theorem IsMantissa.nonempty (h : IsMantissa s) : s ≠ [] := by
  cases h with
  | whole hdigits => exact hdigits.nonempty
  | pointed hdigits => exact List.append_ne_nil_of_left_ne_nil hdigits.nonempty _
  | fraction => exact List.cons_ne_nil _ _

theorem IsMantissa.isDigit_or_point (h : IsMantissa s) (hc : c ∈ s) : c.isDigit = true ∨ c = '.' := by
  cases h with
  | whole hdigits => exact .inl (hdigits.isDigit c hc)
  | pointed hdigits hfraction =>
    rcases List.mem_append.1 hc with hc | hc
    · exact .inl (hdigits.isDigit c hc)
    · exact (List.mem_cons.1 hc).symm.imp_left (hfraction c)
  | fraction hfraction => exact (List.mem_cons.1 hc).symm.imp_left (hfraction.isDigit c)

theorem IsSign.mem (h : IsSign s) (hc : c ∈ s) : c ∈ ['+', '-'] := by
  cases h with
  | none => cases hc
  | plus => exact List.mem_cons.2 (.inl (List.mem_singleton.1 hc))
  | minus => exact List.mem_cons_of_mem _ hc

/-- The characters of a numeral. -/
theorem IsNumeral.mem (h : IsNumeral s) (hc : c ∈ s) :
    c.isDigit = true ∨ c ∈ ['+', '-', '.', 'e', 'E'] := by
  have hsign {s : List Char} (h : IsSign s) (hc : c ∈ s) : c ∈ ['+', '-', '.', 'e', 'E'] :=
    List.mem_append_left ['.', 'e', 'E'] (h.mem hc)
  obtain ⟨h, hmantissa, hexponent⟩ := h
  rcases List.mem_append.1 hc with hc | hc
  · exact .inr (hsign h hc)
  · rcases List.mem_append.1 hc with hc | hc
    · exact (hmantissa.isDigit_or_point hc).imp_right (by rintro rfl; decide)
    · cases hexponent with
      | none => cases hc
      | some hletter hsign' hdigits =>
        rcases List.mem_cons.1 hc with rfl | hc
        · exact .inr (by rcases hletter with rfl | rfl <;> decide)
        · exact (List.mem_append.1 hc).symm.imp (hdigits.isDigit c) (hsign hsign')

/-! ## What a text begins with -/

/-- The text does not begin with a sign. -/
def NoLeadingSign (s : List Char) : Prop :=
  ∀ c ∈ s.head?, c ≠ '+' ∧ c ≠ '-'

/-- The text does not begin with a digit. -/
def NoLeadingDigit (s : List Char) : Prop :=
  ∀ c ∈ s.head?, c.isDigit = false

theorem noLeadingDigit_point : NoLeadingDigit ('.' :: s) := by
  rintro _ ⟨⟩
  rfl

theorem IsExponent.noLeadingDigit (h : IsExponent s) : NoLeadingDigit s := by
  rintro c hc
  cases h with
  | none => cases hc
  | some hletter =>
    cases hc
    rcases hletter with rfl | rfl <;> rfl

theorem IsExponent.splitFraction_eq (h : IsExponent s) : Binary64.splitFraction s = ([], s) := by
  cases h with
  | none => rfl
  | some hletter => rcases hletter with rfl | rfl <;> rfl

namespace Binary64

/-- The sign that a text begins with is split off. -/
theorem splitSign_append (hsign : IsSign sign) (h : NoLeadingSign s) : (splitSign (sign ++ s)).2 = s := by
  cases hsign with
  | plus | minus => rfl
  | none =>
    cases s with
    | nil => rfl
    | cons c s =>
      obtain ⟨hplus, hminus⟩ := h c rfl
      rw [List.nil_append]
      unfold splitSign
      split <;> simp_all

theorem exists_sign (s : List Char) : ∃ sign, IsSign sign ∧ s = sign ++ (splitSign s).2 := by
  unfold splitSign
  split
  · exact ⟨_, .minus, rfl⟩
  · exact ⟨_, .plus, rfl⟩
  · exact ⟨_, .none, rfl⟩

/-- The digits that a text begins with are split off. -/
theorem splitDigits_of_append (hdigits : ∀ c ∈ digits, c.isDigit = true) (h : NoLeadingDigit s) :
    splitDigits (digits ++ s) = (digits, s) :=
  Prod.ext (Text.takeWhile_append hdigits h) (Text.dropWhile_append hdigits h)

theorem splitDigits_append (s : List Char) : (splitDigits s).1 ++ (splitDigits s).2 = s :=
  List.takeWhile_append_dropWhile

theorem isDigit_of_mem_splitDigits (h : c ∈ (splitDigits s).1) : c.isDigit = true :=
  List.mem_takeWhile_imp h

/-! ## Numerals -/

theorem readExponent?_isSome_iff : (readExponent? s).isSome ↔ IsExponent s := by
  constructor
  · intro h
    cases s with
    | nil => exact .none
    | cons c s =>
      rw [readExponent?] at h
      split at h
      · obtain ⟨sign, hsign, hs⟩ := exists_sign s
        by_cases hdigits : (!(splitSign s).2.isEmpty && (splitSign s).2.all Char.isDigit) = true
        · rw [Bool.and_eq_true, Bool.not_eq_true', List.isEmpty_eq_false_iff, List.all_eq_true]
            at hdigits
          rw [hs]
          exact .some ‹_› hsign ⟨hdigits.1, hdigits.2⟩
        · simp [hdigits] at h
      · cases h
  · rintro (_ | @⟨c, sign, digits, hc, hsign, hdigits⟩)
    · rfl
    · have hsplit : (splitSign (sign ++ digits)).2 = digits := by
        refine splitSign_append hsign fun c hc => ?_
        have hdigit := hdigits.isDigit c (List.mem_of_mem_head? hc)
        constructor <;> rintro rfl <;> cases hdigit
      have hall : (!digits.isEmpty && digits.all Char.isDigit) = true := by
        rw [Bool.and_eq_true, Bool.not_eq_true', List.isEmpty_eq_false_iff, List.all_eq_true]
        exact ⟨hdigits.nonempty, hdigits.isDigit⟩
      rw [readExponent?, if_pos hc]
      simp [hsplit, hall]

/-- The point and the digits after it are split off, if there is a point. -/
theorem splitFraction_cases (s : List Char) :
    (∃ t, s = '.' :: t ∧ splitFraction s = splitDigits t) ∨ splitFraction s = ([], s) := by
  unfold splitFraction
  split
  · exact .inl ⟨_, rfl, rfl⟩
  · exact .inr rfl

/-- What is read: digits on one side of the point at least, and then an exponent. -/
theorem readDigits?_isSome (negative : Bool) :
    (readDigits? negative s).isSome ↔
      (splitDigits s).1 ++ (splitFraction (splitDigits s).2).1 ≠ [] ∧
        IsExponent (splitFraction (splitDigits s).2).2 := by
  rw [← readExponent?_isSome_iff, ← List.isEmpty_eq_false_iff]
  change (if ((splitDigits s).1 ++ (splitFraction (splitDigits s).2).1).isEmpty then none else
    (readExponent? (splitFraction (splitDigits s).2).2).map _).isSome = true ↔ _
  split
  · simp_all
  · simp_all

theorem readDigits?_isSome_iff (negative : Bool) : (readDigits? negative s).isSome ↔ IsUnsigned s := by
  rw [readDigits?_isSome]
  constructor
  · rintro ⟨hne, hexponent⟩
    have hdigits : ∀ c ∈ (splitDigits s).1, c.isDigit = true := fun c => isDigit_of_mem_splitDigits
    have hs := splitDigits_append s
    generalize (splitDigits s).1 = digits, (splitDigits s).2 = rest at hne hexponent hdigits hs
    rw [← hs]
    -- Without a point the digits before the exponent are all there are, and there are some.
    rcases splitFraction_cases rest with ⟨rest, rfl, heq⟩ | heq <;> rw [heq] at hne hexponent
    · have hfraction : ∀ c ∈ (splitDigits rest).1, c.isDigit = true := fun c => isDigit_of_mem_splitDigits
      rw [← splitDigits_append rest, ← List.cons_append, ← List.append_assoc]
      refine .mk ?_ hexponent
      by_cases hwhole : digits = []
      · rw [hwhole, List.nil_append] at hne ⊢
        exact .fraction ⟨hne, hfraction⟩
      · exact .pointed ⟨hwhole, hdigits⟩ hfraction
    · rw [List.append_nil] at hne
      exact .mk (.whole ⟨hne, hdigits⟩) hexponent
  · rintro @⟨mantissa, exponent, hmantissa, hexponent⟩
    have hend := hexponent.noLeadingDigit
    cases hmantissa with
    | whole hdigits =>
      rw [splitDigits_of_append hdigits.isDigit hend, hexponent.splitFraction_eq, List.append_nil]
      exact ⟨hdigits.nonempty, hexponent⟩
    | pointed hdigits hfraction =>
      rw [List.append_assoc, List.cons_append,
        splitDigits_of_append hdigits.isDigit noLeadingDigit_point, splitFraction,
        splitDigits_of_append hfraction hend]
      exact ⟨List.append_ne_nil_of_left_ne_nil hdigits.nonempty _, hexponent⟩
    | @fraction fraction hfraction =>
      have hsplit : splitDigits ('.' :: fraction ++ exponent) = ([], '.' :: (fraction ++ exponent)) :=
        splitDigits_of_append (List.forall_mem_nil _) noLeadingDigit_point
      rw [hsplit, splitFraction, splitDigits_of_append hfraction.isDigit hend, List.nil_append]
      exact ⟨hfraction.nonempty, hexponent⟩

end Binary64

theorem Text.toLower_of_isDigit (h : c.isDigit = true) : c.toLower = c := by
  unfold Char.toLower
  rw [dif_neg]
  rintro ⟨hlo, -⟩
  rw [Char.isDigit, Bool.and_eq_true, decide_eq_true_eq, decide_eq_true_eq] at h
  exact absurd (UInt32.le_trans hlo h.2) (by decide)

/-- A numeral begins with a digit or with a point. -/
theorem IsUnsigned.head (h : IsUnsigned s) : ∃ c t, s = c :: t ∧ (c.isDigit = true ∨ c = '.') := by
  obtain ⟨hmantissa, -⟩ := h
  obtain ⟨c, t, rfl⟩ := List.exists_cons_of_ne_nil hmantissa.nonempty
  exact ⟨c, _, rfl, hmantissa.isDigit_or_point List.mem_cons_self⟩

/-- A word begins with one of two letters. -/
theorem IsNumberWord.head (h : IsNumberWord s) :
    ∃ c t, s = c :: t ∧ (c.toLower = 'i' ∨ c.toLower = 'n') := by
  cases s with
  | nil => rcases h with h | h | h <;> cases h
  | cons c t =>
    refine ⟨c, t, rfl, ?_⟩
    rcases h with h | h | h
    · exact .inl (List.cons.inj h).1
    · exact .inl (List.cons.inj h).1
    · exact .inr (List.cons.inj h).1

theorem IsUnsigned.noLeadingSign (h : IsUnsigned s) : NoLeadingSign s := by
  obtain ⟨c, t, rfl, hc⟩ := h.head
  rintro _ ⟨⟩
  constructor <;> rintro rfl <;> exact absurd hc (by decide)

theorem IsNumberWord.noLeadingSign (h : IsNumberWord s) : NoLeadingSign s := by
  obtain ⟨c, t, rfl, hc⟩ := h.head
  rintro _ ⟨⟩
  constructor <;> rintro rfl <;> exact absurd hc (by decide)

/-- Every word has the same letter in it. -/
theorem IsSpecial.exists_n (h : IsSpecial s) : ∃ c ∈ s, c.toLower = 'n' := by
  cases h with
  | @mk sign word _ hword =>
    have hn : 'n' ∈ Text.asciiLower word := by
      rcases hword with h | h | h <;> rw [h] <;> decide
    obtain ⟨c, hc, hlower⟩ := List.mem_map.1 hn
    exact ⟨c, List.mem_append_right _ hc, hlower⟩

/-- No numeral is such a word. -/
theorem IsNumeral.not_isSpecial (h : IsNumeral s) : ¬IsSpecial s := by
  intro hspecial
  obtain ⟨c, hc, hn⟩ := hspecial.exists_n
  rcases h.mem hc with hdigit | hother
  · rw [Text.toLower_of_isDigit hdigit] at hn
    subst c
    cases hdigit
  · simp only [List.mem_cons, List.not_mem_nil, or_false] at hother
    rcases hother with rfl | rfl | rfl | rfl | rfl <;> exact absurd hn (by decide)

namespace Binary64

/-- Behind the sign stands a word or a number in digits. -/
theorem read?_isSome :
    (read? s).isSome ↔ IsUnsigned (splitSign s).2 ∨ IsNumberWord (splitSign s).2 := by
  rw [read?]
  obtain ⟨negative, rest⟩ := splitSign s
  rw [← readDigits?_isSome_iff negative, IsNumberWord]
  dsimp only
  by_cases hinf : Text.asciiLower rest = "inf".toList ∨ Text.asciiLower rest = "infinity".toList
  · rw [if_pos hinf]
    exact iff_of_true rfl (.inr (hinf.imp_right .inl))
  · rw [if_neg hinf]
    by_cases hnan : Text.asciiLower rest = "nan".toList
    · rw [if_pos hnan]
      exact iff_of_true rfl (.inr (.inr (.inr hnan)))
    · rw [if_neg hnan]
      exact (or_iff_left fun h => h.elim (hinf ∘ .inl) fun h => h.elim (hinf ∘ .inr) hnan).symm

/-- The texts that are read as a number are the numerals and the words. -/
theorem read?_isSome_iff : (read? s).isSome ↔ IsNumeral s ∨ IsSpecial s := by
  rw [read?_isSome]
  constructor
  · obtain ⟨sign, hsign, hs⟩ := exists_sign s
    generalize (splitSign s).2 = rest at hs
    rw [hs]
    exact Or.imp (.mk hsign) (.mk hsign)
  · rintro (⟨hsign, hrest⟩ | ⟨hsign, hrest⟩)
    · rw [splitSign_append hsign hrest.noLeadingSign]
      exact .inl hrest
    · rw [splitSign_append hsign hrest.noLeadingSign]
      exact .inr hrest

end Binary64

/-! ## Exact numbers -/

namespace Dialect

/-- The literal of an exact number is its text without the blanks around it. There is one when that is a
    numeral, which is never one of the words, and when it is one of the words. -/
theorem literal?_decimal (d : Dialect) (text : String) :
    (∀ written : String, d.literal? (.decimal text) = some written ↔
        written.toList = Text.trim text.toList ∧
          (IsNumeral written.toList ∨ IsSpecial written.toList)) ∧
      ¬∃ s, IsNumeral s ∧ IsSpecial s := by
  refine ⟨fun written => ?_, fun ⟨_, hnumeral, hspecial⟩ => hnumeral.not_isSpecial hspecial⟩
  rw [literal?, decimalLiteral?, isNumeric]
  constructor
  · intro h
    split at h
    · cases h
      rw [String.toList_ofList]
      exact ⟨rfl, Binary64.read?_isSome_iff.mp ‹_›⟩
    · cases h
  · rintro ⟨htext, hread⟩
    rw [← htext, if_pos (Binary64.read?_isSome_iff.mpr hread), String.ofList_toList]

/-- The word for no number has a literal and is no numeral. -/
theorem literal?_decimal_nan :
    generic.literal? (.decimal "NaN") = some "NaN" ∧ ¬IsNumeral "NaN".toList := by
  refine ⟨by decide, fun h => h.not_isSpecial ?_⟩
  exact .mk .none (.inr (.inr (by decide)))

end Dialect

end SchemaChange
