import SchemaChange.Proofs.Dialect.Literal
import SchemaChange.Proofs.Statement.Passage

/-!
# Literals in a statement

The literal of a value is a phrase: a text and a timestamp do not get out of their quotes, the digits of
bytes and of numbers hold nothing that would count outside of them, and an exact number is written only
if its text is one.

* `Dialect.literal?_phrase`
-/

namespace SchemaChange

variable {d : Dialect} {s : List Char} {c : Char}

/-! ## Digits and letters -/

/-- The characters that a word is without. -/
def signs : List Char :=
  ['\x27', '"', '\x60', ';', '-', '/', '(', ')', '*']

/-- The characters of words are those that are not signs. -/
theorem isWordChar_iff : isWordChar c = true ↔ c ∉ signs := by
  simp [isWordChar, isPlain, signs, and_assoc]

/-- A kind of characters that has none of the signs. -/
theorem isWordChar_of {p : Char → Bool} (hp : signs.any p = false) (h : p c = true) :
    isWordChar c = true := by
  rw [List.any_eq_false] at hp
  exact isWordChar_iff.2 fun hc => hp c hc h

theorem isWordChar_of_isDigit (h : c.isDigit = true) : isWordChar c = true :=
  isWordChar_of rfl h

/-- A text that is a word when its letters are made small. -/
theorem isWordChar_of_asciiLower (h : ∀ c ∈ Text.asciiLower s, isWordChar c = true) :
    ∀ c ∈ s, isWordChar c = true := by
  intro c hc
  refine isWordChar_of (p := fun c => isWordChar c.toLower) rfl ?_
  exact h _ (List.mem_map_of_mem hc)

theorem isWordChar_toDigits (n : Nat) : ∀ c ∈ Nat.toDigits 10 n, isWordChar c = true :=
  fun _ hc => isWordChar_of_isDigit (isDigit_of_mem_toDigits hc)

theorem Takes.repr (n : Nat) : Takes d .settled 0 n.repr .settled 0 :=
  word (isWordChar_toDigits n)

/-- A number in decimal digits is a word. -/
theorem Phrase.repr (n : Nat) : Phrase d n.repr :=
  (Takes.repr n).ofReady

/-! ## Numbers -/

theorem Phrase.intText (n : Int) : Phrase d (Value.intText n) := by
  rw [Value.intText]
  split
  · exact Takes.append (Takes.of_walk rfl) (.repr _)
  · exact repr _

namespace Binary64

theorem isDigit_shortestDigits {tie : Tie} {x : Binary64} (h : c ∈ (x.shortestDigits tie).1) :
    c.isDigit = true := by
  have hmem := (List.dropWhile_sublist _).mem (List.mem_reverse.1 h)
  exact isDigit_of_mem_toDigits (List.mem_reverse.1 hmem)

theorem mem_positional {digits : List Char} {power : Int} (h : c ∈ positional digits power) :
    c ∈ digits ∨ c = '0' ∨ c = '.' := by
  unfold positional at h
  split at h
  · rcases List.mem_append.1 h with h | h
    · exact .inl h
    · exact .inr (.inl (List.eq_of_mem_replicate h))
  · simp only at h
    split at h
    · simp only [List.mem_append, List.mem_singleton] at h
      rcases h with (h | h) | h
      · exact .inl (List.mem_of_mem_take h)
      · exact .inr (.inr h)
      · exact .inl (List.mem_of_mem_drop h)
    · simp only [List.mem_append, List.mem_cons, List.not_mem_nil, or_false] at h
      rcases h with ((h | h) | h) | h
      · exact .inr (.inl h)
      · exact .inr (.inr h)
      · exact .inr (.inl (List.eq_of_mem_replicate h))
      · exact .inl h

/-- A floating-point number is written in digits with a sign and a point, or as a word. -/
theorem phrase_text (x : Binary64) : Phrase d x.text := by
  unfold text
  split
  · exact .text rfl (.inl rfl)
  · extract_lets sign
    have hsign : Takes d .ready 0 sign .settled 0 := by
      unfold sign
      split
      · exact Takes.of_walk rfl
      · exact Takes.settle Takes.nil
    split
    · exact hsign.append (Takes.settle (Takes.of_walk rfl))
    · split
      · exact hsign.append (Takes.settle (Takes.of_walk rfl))
      · refine hsign.append (Takes.word fun c hc => ?_)
        rcases mem_positional hc with hc | rfl | rfl
        · exact isWordChar_of_isDigit (isDigit_shortestDigits hc)
        · rfl
        · rfl

end Binary64

/-! A numeral is a sign, a word of digits and an exponent, the last with a sign of its own. -/

theorem IsSign.phrase (h : IsSign s) : Phrase d (String.ofList s) := by
  cases h with
  | none | plus => exact .text rfl (.inl rfl)
  | minus => exact .text rfl (.inr rfl)

/-- A dash may follow the digits of a numeral, since there are some. -/
theorem IsMantissa.takes (h : IsMantissa s) : Takes d .settled 0 (String.ofList s) .ready 0 := by
  refine Takes.word_of_ne_nil (fun c hc => ?_) h.nonempty
  rcases h.isDigit_or_point hc with hc | rfl
  · exact isWordChar_of_isDigit hc
  · rfl

/-- An exponent may have a sign behind its letter, and goes on with the number. -/
theorem IsExponent.takes (h : IsExponent s) : Takes d .ready 0 (String.ofList s) .settled 0 := by
  cases h with
  | none => exact Takes.settle Takes.nil
  | @some c sign digits hletter hsign hdigits =>
    have htakes : Takes d .ready 0 (String.ofList [c]) .ready 0 := by
      rcases hletter with rfl | rfl <;> exact Takes.of_walk rfl
    rw [← List.singleton_append, String.ofList_append, String.ofList_append]
    exact htakes.append <| Takes.append hsign.phrase <|
      Takes.word fun c hc => isWordChar_of_isDigit (hdigits.isDigit c hc)

theorem IsUnsigned.takes (h : IsUnsigned s) : Takes d .settled 0 (String.ofList s) .settled 0 := by
  obtain ⟨hmantissa, hexponent⟩ := h
  rw [String.ofList_append]
  exact hmantissa.takes.append hexponent.takes

/-- The letters of a word may be of either case. -/
theorem IsNumberWord.takes (h : IsNumberWord s) : Takes d .settled 0 (String.ofList s) .settled 0 := by
  refine Takes.word (isWordChar_of_asciiLower ?_)
  rcases h with h | h | h <;> rw [h] <;> exact List.all_eq_true.1 rfl

/-- A text that is read as a number is a phrase. -/
theorem Binary64.read?_phrase (h : (read? s).isSome = true) : Phrase d (String.ofList s) := by
  rcases read?_isSome_iff.1 h with ⟨hsign, hrest⟩ | ⟨hsign, hrest⟩
  · rw [String.ofList_append]
    exact Takes.append hsign.phrase hrest.takes
  · rw [String.ofList_append]
    exact Takes.append hsign.phrase hrest.takes

/-! ## Bytes and timestamps -/

/-- Hexadecimal digits hold no quote. -/
theorem not_mem_hexPairs (bs : List UInt8) : '\x27' ∉ Text.hexPairs bs :=
  fun h => absurd ((Text.hexPairs_spec bs).2 _ h) (by decide)

namespace Timestamp

theorem isDigit_padded {width n : Nat} (h : c ∈ padded width n) : c.isDigit = true := by
  rcases List.mem_append.1 h with h | h
  · rw [List.eq_of_mem_replicate h]
    rfl
  · exact isDigit_of_mem_toDigits h

section

variable (hdigit : c.isDigit = false)

include hdigit

theorem not_mem_padded (width n : Nat) : c ∉ padded width n := fun h => by
  rw [isDigit_padded h] at hdigit
  cases hdigit

theorem not_mem_yearText (hplus : c ≠ '+') (hminus : c ≠ '-') (year : Int) : c ∉ yearText year := by
  unfold yearText
  split
  · exact not_mem_padded hdigit _ _
  · rw [List.mem_cons, not_or]
    exact ⟨by split <;> assumption, not_mem_padded hdigit _ _⟩

/-- A fraction of a second holds digits behind a point. -/
theorem not_mem_fractionText (hpoint : c ≠ '.') (n : Nat) : c ∉ fractionText n := by
  unfold fractionText
  repeat' split
  · exact List.not_mem_nil
  all_goals exact List.not_mem_cons_of_ne_of_not_mem hpoint (not_mem_padded hdigit _ _)

/-- A timestamp is written with digits and the signs between them. -/
theorem not_mem_text (hsign : c ∉ ['+', '-', '.', ':', ' ']) (t : Timestamp) : c ∉ t.text.toList := by
  simp only [List.mem_cons, List.not_mem_nil, or_false, not_or] at hsign
  simp [text, textWith, not_mem_yearText, not_mem_padded, not_mem_fractionText, hdigit, hsign]

end

/-- The text of a timestamp may stand between quotes as it is. -/
theorem takes_text (t : Timestamp) : Takes d (.inside '\x27') 0 t.text (.inside '\x27') 0 := by
  rw [← String.ofList_toList (s := t.text)]
  exact Takes.within (t.not_mem_text rfl (by decide))

end Timestamp

/-! ## Values -/

/-- A text that may stand in quotes as it is, between those that come after a word and maybe a
    bracket. -/
theorem Takes.between {before after : List Char} {t : String} {B : Stage} {b : Nat}
    (hbefore : Stage.ready.walk? 0 before = some (.inside '\x27', b))
    (ht : Takes d (.inside '\x27') 0 t (.inside '\x27') 0)
    (hafter : (Stage.inside '\x27').walk? b after = some (B, 0)) :
    Takes d .ready 0 (String.ofList before ++ t ++ String.ofList after) B 0 :=
  ((of_walk hbefore).append (ht.deepen b)).text hafter

namespace Dialect

/-- A text is a region of its own, whatever is in it. -/
theorem textLiteral_phrase (s : String) : Phrase d (textLiteral s) :=
  Takes.quoted (.inl rfl) _

/-- Bytes are written in hexadecimal digits between quotes. -/
theorem bytesLiteral_phrase (bs : List UInt8) : Phrase d (d.bytesLiteral bs) := by
  have hhex {d} := Takes.within (d := d) (not_mem_hexPairs bs)
  cases d with
  | oracle | postgres => exact Takes.settle (Takes.between rfl hhex rfl)
  | mySql | derby | generic => exact Takes.between rfl hhex rfl

theorem timestampLiteral_phrase (t : Timestamp) : Phrase d (d.timestampLiteral t) := by
  cases d with
  | derby => exact Takes.settle (Takes.between rfl t.takes_text rfl)
  | generic => exact textLiteral_phrase _
  | oracle | mySql | postgres => exact Takes.between rfl t.takes_text rfl

theorem boolLiteral_phrase (v : Bool) : Phrase d (d.boolLiteral v) := by
  unfold boolLiteral
  split <;> split <;> exact .text rfl (.inl rfl)

/-- A literal of any kind closes what it opens. -/
theorem literal?_phrase {v : Value} {t : String} (h : d.literal? v = some t) : Phrase d t := by
  cases v with
  | null =>
    cases h
    exact .text rfl (.inl rfl)
  | bool v =>
    cases h
    exact boolLiteral_phrase v
  | int32 n | int64 n =>
    cases h
    exact .intText _
  | float64 x =>
    rw [literal?] at h
    split at h
    · cases h
      exact x.phrase_text
    · cases h
  | decimal s =>
    rw [literal?, decimalLiteral?] at h
    split at h
    · cases h
      exact Binary64.read?_phrase ‹_›
    · cases h
  | text s =>
    cases h
    exact textLiteral_phrase s
  | bytes bs =>
    cases h
    exact bytesLiteral_phrase bs
  | timestamp v =>
    cases h
    exact timestampLiteral_phrase v

end Dialect

end SchemaChange
