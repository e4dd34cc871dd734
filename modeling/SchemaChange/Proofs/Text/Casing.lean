import SchemaChange.CaseRule
import SchemaChange.Text.Basic

/-!
# What folding changes

Names are compared ignoring the case of ASCII letters, and folded by the mappings of all of Unicode. The
mappings agree with the comparison as far as it goes: a text and the same text with its ASCII letters made
small have the same capitals and the same small letters, also where a sigma looks at its surroundings. So
names that are the same are folded to one text, unless names are not folded at all. A folded name is the
same name as before if its characters are ASCII; otherwise it need not be, as `é` is folded to `É`.

* `CaseRule.fold_asciiLower`, `CaseRule.apply_eq_of_sameName`: folding tells no names apart that are the
  same;
* `CaseRule.sameName_of_apply_eq`: nor does it merge names that it leaves the same;
* `CaseRule.sameName_apply`: a name of ASCII characters is the same name when it is folded;
* `CaseRule.mem_apply_iff`: signs below the letters, such as points and line feeds, are kept, and no other
  character becomes one.
-/

namespace SchemaChange

namespace Text

/-- Small forms are taken of ASCII characters only. -/
theorem toLower_of_le {c : Char} (hc : 128 ≤ c.toNat) : c.toLower = c := by
  refine dif_neg fun hcapital => ?_
  have hle := UInt32.le_iff_toNat_le.1 hcapital.2
  exact absurd (Nat.lt_of_le_of_lt hle (by decide)) (Nat.not_lt.2 hc)

/-- What is the same for the capital and the small form of each ASCII letter is so for all characters,
    as no other character is changed. -/
theorem apply_toLower {α : Type} (f : Char → α)
    (h : ∀ n < 128, f (Char.ofNat n).toLower = f (Char.ofNat n)) (c : Char) : f c.toLower = f c := by
  rcases Nat.lt_or_ge c.toNat 128 with hc | hc
  · simpa only [Char.ofNat_toNat] using h c.toNat hc
  · rw [toLower_of_le hc]

theorem toUpper_of_le {c : Char} (hc : 128 ≤ c.toNat) : c.toUpper = c := by
  refine dif_neg fun hsmall => ?_
  have hle := UInt32.le_iff_toNat_le.1 hsmall.2
  exact absurd (Nat.lt_of_le_of_lt hle (by decide)) (Nat.not_lt.2 hc)

/-- What is the same for the small and the capital form of each ASCII letter is so for all characters. -/
theorem apply_toUpper {α : Type} (f : Char → α)
    (h : ∀ n < 128, f (Char.ofNat n).toUpper = f (Char.ofNat n)) (c : Char) : f c.toUpper = f c := by
  rcases Nat.lt_or_ge c.toNat 128 with hc | hc
  · simpa only [Char.ofNat_toNat] using h c.toNat hc
  · rw [toUpper_of_le hc]

theorem asciiUpper_asciiLower (s : List Char) : asciiUpper (asciiLower s) = asciiUpper s := by
  simp [asciiUpper, asciiLower, apply_toLower Char.toUpper (by decide)]

theorem asciiLower_asciiUpper (s : List Char) : asciiLower (asciiUpper s) = asciiLower s := by
  simp [asciiUpper, asciiLower, apply_toUpper Char.toLower (by decide)]

theorem asciiLower_asciiLower (s : List Char) : asciiLower (asciiLower s) = asciiLower s := by
  simp [asciiLower, apply_toLower Char.toLower (by decide)]

/-- Texts are the same in capitals exactly if they are in small letters. -/
theorem asciiUpper_eq_iff {s t : List Char} : asciiUpper s = asciiUpper t ↔ asciiLower s = asciiLower t := by
  constructor
  · intro h
    rw [← asciiLower_asciiUpper s, h, asciiLower_asciiUpper]
  · intro h
    rw [← asciiUpper_asciiLower s, h, asciiUpper_asciiLower]

theorem capital_toLower (c : Char) : capital c.toLower = capital c :=
  apply_toLower capital (by decide) c

theorem small_toLower (c : Char) : small c.toLower = small c :=
  apply_toLower small (by decide) c

theorem isCased_toLower (c : Char) : isCased c.toLower = isCased c :=
  apply_toLower isCased (by decide) c

theorem isCaseIgnorable_toLower (c : Char) : isCaseIgnorable c.toLower = isCaseIgnorable c :=
  apply_toLower isCaseIgnorable (by decide) c

/-- A character that no other ASCII letter becomes is told from all others. -/
theorem toLower_eq_iff {d : Char}
    (hd : ∀ n < 128, (Char.ofNat n).toLower = d ↔ Char.ofNat n = d) (c : Char) : c.toLower = d ↔ c = d := by
  rcases Nat.lt_or_ge c.toNat 128 with hc | hc
  · simpa only [Char.ofNat_toNat] using hd c.toNat hc
  · rw [toLower_of_le hc]

theorem toCapitals_asciiLower (s : List Char) : toCapitals (asciiLower s) = toCapitals s := by
  simp only [toCapitals, asciiLower, List.flatMap_map, capital_toLower]

/-- Whether a cased letter comes next does not hang on the case of ASCII letters. -/
theorem meetsCased_asciiLower (s : List Char) : meetsCased (asciiLower s) = meetsCased s := by
  have hlook : isCaseIgnorable ∘ Char.toLower = isCaseIgnorable := funext isCaseIgnorable_toLower
  rw [meetsCased, meetsCased, asciiLower, List.dropWhile_map, hlook]
  cases s.dropWhile isCaseIgnorable with
  | nil => rfl
  | cons c _ => exact isCased_toLower c

/-- The surroundings of a letter count by what is cased and what is looked through, and neither hangs on
    the case of ASCII letters. -/
theorem toSmallAfter_asciiLower (before s : List Char) :
    toSmallAfter (asciiLower before) (asciiLower s) = toSmallAfter before s := by
  induction s generalizing before with
  | nil => rfl
  | cons c s ih =>
    have hsigma := toLower_eq_iff (d := 'Σ') (by decide) c
    have hends : endsWord (asciiLower before) (asciiLower s) = endsWord before s := by
      rw [endsWord, meetsCased_asciiLower, meetsCased_asciiLower, endsWord]
    have hrest := ih (c :: before)
    simp only [asciiLower, List.map_cons] at hends hrest ⊢
    simp only [toSmallAfter, hsigma, hends, small_toLower, hrest]

theorem toSmall_asciiLower (s : List Char) : toSmall (asciiLower s) = toSmall s :=
  toSmallAfter_asciiLower [] s

/-! ## ASCII texts -/

/-- The text has ASCII characters only. -/
def IsAscii (s : List Char) : Prop :=
  ∀ c ∈ s, c.toNat < 128

instance : DecidablePred IsAscii := fun s =>
  decidable_of_iff (s.all fun c => Nat.blt c.toNat 128) (by simp [IsAscii])

/-- The capitals of an ASCII text are its ASCII capitals. -/
theorem toCapitals_of_isAscii {s : List Char} (h : IsAscii s) : toCapitals s = asciiUpper s := by
  induction s with
  | nil => rfl
  | cons c s ih =>
    have hc : capital c = [c.toUpper] := if_pos (h c List.mem_cons_self)
    have hs := ih fun d hd => h d (List.mem_cons_of_mem c hd)
    rw [toCapitals, List.flatMap_cons, hc, ← toCapitals, hs]
    rfl

/-- The small letters of an ASCII text are its ASCII ones, as it has no sigma. -/
theorem toSmallAfter_of_isAscii {s : List Char} (h : IsAscii s) (before : List Char) :
    toSmallAfter before s = asciiLower s := by
  induction s generalizing before with
  | nil => rfl
  | cons c s ih =>
    have hascii := h c List.mem_cons_self
    have hsigma : c ≠ 'Σ' := by
      rintro rfl
      exact absurd hascii (by decide)
    have hc : small c = [c.toLower] := if_pos hascii
    rw [toSmallAfter, if_neg hsigma, hc, ih fun d hd => h d (List.mem_cons_of_mem c hd)]
    rfl

/-! ## Signs that are kept -/

section Signs

variable {c d : Char} {s : List Char}

theorem eq_toNat_of_ofNat {n : Nat} (h : Char.ofNat n = d) (hd : 0 < d.toNat) : n = d.toNat := by
  by_cases hvalid : n.isValidChar
  · rw [Char.ofNat, dif_pos hvalid] at h
    exact congrArg Char.toNat h
  · rw [Char.ofNat, dif_neg hvalid] at h
    rw [← h] at hd
    exact absurd hd (by decide)

/-- A mapping that keeps the signs below the letters and makes them of nothing else. -/
structure KeepsSigns (ascii : Char → Char) (expansions : List (Nat × List Nat)) (runs : List CaseRun) :
    Prop where
  ascii_eq : ∀ n < 128, ascii (Char.ofNat n) = Char.ofNat n ∨
    65 ≤ n ∧ 65 ≤ (ascii (Char.ofNat n)).toNat
  expansions_le : ∀ p ∈ expansions, ∀ n ∈ p.2, 65 ≤ n
  runs_le : ∀ r ∈ runs, 65 ≤ r.first + r.shift

/-- A sign below the letters comes from itself alone. -/
theorem KeepsSigns.mem_iff {ascii : Char → Char} {expansions : List (Nat × List Nat)} {runs : List CaseRun}
    (h : KeepsSigns ascii expansions runs) (hpos : 0 < d.toNat) (hlt : d.toNat < 65) :
    d ∈ mapCase ascii expansions runs c ↔ c = d := by
  unfold mapCase
  split
  · rename_i hc
    rw [List.mem_singleton]
    rcases h.ascii_eq c.toNat hc with hsame | ⟨hc, hascii⟩
    · rw [Char.ofNat_toNat] at hsame
      rw [hsame, eq_comm]
    · rw [Char.ofNat_toNat] at hascii
      exact iff_of_false (fun heq => by rw [← heq] at hascii; omega) (fun heq => by rw [heq] at hc; omega)
  · rename_i hc
    have hne : c ≠ d := by
      rintro rfl
      omega
    refine iff_of_false ?_ hne
    split
    · rename_i codes hcodes
      intro hmem
      obtain ⟨n, hn, hcode⟩ := List.mem_map.1 hmem
      obtain ⟨l, l', rfl, -⟩ := List.lookup_eq_some_iff.1 hcodes
      have hle := h.expansions_le _ (List.mem_append_right _ List.mem_cons_self) n hn
      rw [eq_toNat_of_ofNat hcode hpos] at hle
      omega
    · split
      · rename_i r hr
        have hholds := List.find?_some hr
        have hrun := h.runs_le r (List.mem_of_find?_eq_some hr)
        intro hmem
        have hcode := eq_toNat_of_ofNat (List.mem_singleton.1 hmem).symm hpos
        simp only [CaseRun.holds, Bool.and_eq_true, decide_eq_true_eq] at hholds
        omega
      · exact fun hmem => hne (List.mem_singleton.1 hmem).symm

theorem keepsSigns_capital : KeepsSigns Char.toUpper capitalExpansions capitalRuns :=
  ⟨by decide, by decide +kernel, by decide +kernel⟩

theorem keepsSigns_small : KeepsSigns Char.toLower smallExpansions smallRuns :=
  ⟨by decide, by decide +kernel, by decide +kernel⟩

theorem mem_toCapitals_iff (hpos : 0 < d.toNat) (hlt : d.toNat < 65) : d ∈ toCapitals s ↔ d ∈ s := by
  have hcapital (c : Char) : d ∈ capital c ↔ c = d := keepsSigns_capital.mem_iff hpos hlt
  simp [toCapitals, hcapital]

theorem mem_toSmallAfter_iff (hpos : 0 < d.toNat) (hlt : d.toNat < 65) (before : List Char) :
    d ∈ toSmallAfter before s ↔ d ∈ s := by
  induction s generalizing before with
  | nil => exact Iff.rfl
  | cons c s ih =>
    rw [toSmallAfter, List.mem_append, ih, List.mem_cons, eq_comm (a := d)]
    refine or_congr_left ?_
    split
    · subst c
      have hfinal {c : Char} (hc : 65 ≤ c.toNat) : c ≠ d := by
        rintro rfl
        omega
      refine iff_of_false ?_ (hfinal (by decide))
      rw [List.mem_singleton, eq_comm]
      split <;> exact hfinal (by decide)
    · exact keepsSigns_small.mem_iff hpos hlt

end Signs

end Text

namespace CaseRule

variable {rule : CaseRule} {a b : String}

/-- A rule that folds at all folds ASCII letters. -/
theorem fold_asciiLower (hrule : rule ≠ .verbatim) (s : List Char) :
    rule.fold (Text.asciiLower s) = rule.fold s := by
  cases rule with
  | upper => exact Text.toCapitals_asciiLower s
  | lower => exact Text.toSmall_asciiLower s
  | verbatim => exact absurd rfl hrule

/-- Names that are the same are folded to one text. -/
theorem apply_eq_of_sameName (hrule : rule ≠ .verbatim) (h : Text.sameName a b = true) :
    rule.apply a = rule.apply b := by
  rw [apply, ← fold_asciiLower hrule, Text.sameName_iff.1 h, fold_asciiLower hrule, ← apply]

/-- A name of ASCII characters is the same name when it is folded. -/
theorem sameName_apply (rule : CaseRule) {name : String}
    (h : Text.IsAscii name.toList) : Text.sameName (rule.apply name) name = true := by
  rw [Text.sameName_iff, CaseRule.apply, String.toList_ofList]
  cases rule with
  | upper =>
    rw [fold, Text.toCapitals_of_isAscii h, Text.asciiLower_asciiUpper]
  | lower =>
    rw [fold, Text.toSmall, Text.toSmallAfter_of_isAscii h, Text.asciiLower_asciiLower]
  | verbatim => rfl

example : Text.sameName (CaseRule.upper.apply "é") "é" = false := rfl

/-- Names that are folded to one text are the same if each of them still is the same name when it is
    folded. -/
theorem sameName_of_apply_eq (ha : Text.sameName (rule.apply a) a = true)
    (hb : Text.sameName (rule.apply b) b = true) (h : rule.apply a = rule.apply b) :
    Text.sameName a b = true := by
  rw [← Text.sameName_congr ha, h]
  exact hb

/-- Folding keeps the signs of a name, and makes none. -/
theorem mem_apply_iff (rule : CaseRule) {name : String} {d : Char} (hpos : 0 < d.toNat)
    (hlt : d.toNat < 65) : d ∈ (rule.apply name).toList ↔ d ∈ name.toList := by
  rw [apply, String.toList_ofList]
  cases rule with
  | upper => exact Text.mem_toCapitals_iff hpos hlt
  | lower => exact Text.mem_toSmallAfter_iff hpos hlt []
  | verbatim => exact Iff.rfl

end CaseRule

end SchemaChange
