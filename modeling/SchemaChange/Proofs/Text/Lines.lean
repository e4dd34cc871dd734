import Mathlib.Data.List.TakeWhile
import SchemaChange.Text.Basic

/-!
# Lines and the blanks around them

What taking the blanks from the ends of a text leaves, and what is in the parts of a text that is cut at
a separator. A text keeps all its characters if it has no blank at either end, so trimming twice is
trimming once; a text that begins with no blank loses blanks at its end only.

* `Text.trim_eq_self_iff`: which texts are trimmed;
* `Text.trim_trim`: trimming twice is trimming once;
* `Text.exists_mem_splitOn_iff`: the parts hold the characters of the text but the separators.
-/

namespace SchemaChange.Text

variable {s t : List Char} {c sep : Char}

/-- The text does not begin with a blank. -/
def NoLeadingBlank (s : List Char) : Prop :=
  ∀ c ∈ s.head?, isBlank c = false

/-- The text does not end with a blank. -/
def NoTrailingBlank (s : List Char) : Prop :=
  ∀ c ∈ s.getLast?, isBlank c = false

/-! ## Runs -/

section Runs

variable {p : Char → Bool}

/-- A run of characters ends where one of another kind follows. -/
theorem takeWhile_append (hs : ∀ c ∈ s, p c = true) (ht : ∀ c ∈ t.head?, p c = false) :
    (s ++ t).takeWhile p = s := by
  rw [List.takeWhile_append_of_pos hs]
  cases t with
  | nil => exact List.append_nil s
  | cons c t => rw [List.takeWhile_cons_of_neg (by rw [ht c rfl]; decide), List.append_nil]

theorem dropWhile_append (hs : ∀ c ∈ s, p c = true) (ht : ∀ c ∈ t.head?, p c = false) :
    (s ++ t).dropWhile p = t := by
  rw [List.dropWhile_append_of_pos hs]
  cases t with
  | nil => rfl
  | cons c t => exact List.dropWhile_cons_of_neg (by rw [ht c rfl]; decide)

end Runs

/-! ## Trimming -/

/-- The beginning of a text begins as the text does. -/
theorem NoLeadingBlank.mono (hs : NoLeadingBlank s) (h : t <+: s) : NoLeadingBlank t := by
  intro c hc
  obtain ⟨t', ht⟩ := List.head?_eq_some_iff.mp hc
  obtain ⟨r, rfl⟩ := h
  exact hs c (by rw [ht]; rfl)

theorem NoLeadingBlank.append (hs : NoLeadingBlank s) (hne : s ≠ []) : NoLeadingBlank (s ++ t) := by
  cases s with
  | nil => exact absurd rfl hne
  | cons c s => exact hs

theorem trimStart_noLeadingBlank : NoLeadingBlank (trimStart s) := by
  intro c hc
  have h := List.head?_dropWhile_not isBlank s
  rw [show (s.dropWhile isBlank).head? = some c from hc] at h
  exact h

/-- Without its leading blanks a text is as before if it has none. -/
theorem trimStart_eq_self_iff : trimStart s = s ↔ NoLeadingBlank s := by
  refine ⟨fun h => h ▸ trimStart_noLeadingBlank, fun h => ?_⟩
  cases s with
  | nil => rfl
  | cons c s => exact List.dropWhile_cons_of_neg (by rw [h c rfl]; decide)

theorem trimEnd_noTrailingBlank : NoTrailingBlank (trimEnd s) := by
  intro c hc
  rw [trimEnd, List.getLast?_reverse] at hc
  exact trimStart_noLeadingBlank c hc

theorem trimEnd_eq_self_iff : trimEnd s = s ↔ NoTrailingBlank s := by
  refine ⟨fun h => h ▸ trimEnd_noTrailingBlank, fun h => ?_⟩
  have hs : NoLeadingBlank s.reverse := fun c hc => h c (List.head?_reverse ▸ hc)
  rw [trimEnd, show s.reverse.dropWhile isBlank = s.reverse from trimStart_eq_self_iff.mpr hs,
    List.reverse_reverse]

theorem isPrefix_trimEnd : trimEnd s <+: s := by
  have h := List.reverse_prefix.mpr (List.dropWhile_suffix (l := s.reverse) isBlank)
  rwa [List.reverse_reverse] at h

/-- A text that begins with no blank loses blanks at its end only. -/
theorem NoLeadingBlank.isPrefix_trim (h : NoLeadingBlank s) : trim s <+: s := by
  rw [trim, trimStart_eq_self_iff.mpr h]
  exact isPrefix_trimEnd

theorem trim_noLeadingBlank : NoLeadingBlank (trim s) :=
  trimStart_noLeadingBlank.mono isPrefix_trimEnd

/-- The trimmed texts are those with no blank at either end. -/
theorem trim_eq_self_iff : trim s = s ↔ NoLeadingBlank s ∧ NoTrailingBlank s := by
  refine ⟨fun h => ⟨h ▸ trim_noLeadingBlank, h ▸ trimEnd_noTrailingBlank⟩, fun ⟨hstart, hend⟩ => ?_⟩
  rw [trim, trimStart_eq_self_iff.mpr hstart, trimEnd_eq_self_iff.mpr hend]

/-- Trimming twice is trimming once. -/
theorem trim_trim : trim (trim s) = trim s :=
  trim_eq_self_iff.mpr ⟨trim_noLeadingBlank, trimEnd_noTrailingBlank⟩

/-- The blanks that a text begins with. -/
theorem exists_trimStart (s : List Char) : ∃ b, (∀ c ∈ b, isBlank c = true) ∧ s = b ++ trimStart s :=
  ⟨s.takeWhile isBlank, fun _ hc => List.mem_takeWhile_imp hc, List.takeWhile_append_dropWhile.symm⟩

/-- The blanks that a text ends with. -/
theorem exists_trimEnd (s : List Char) : ∃ b, (∀ c ∈ b, isBlank c = true) ∧ s = trimEnd s ++ b := by
  obtain ⟨b, hb, heq⟩ := exists_trimStart s.reverse
  refine ⟨b.reverse, fun c hc => hb c (List.mem_reverse.mp hc), ?_⟩
  rw [trimEnd, ← List.reverse_append]
  exact List.reverse_eq_iff.mp heq

theorem trimStart_append (h : ∀ c ∈ s, isBlank c = true) (t : List Char) :
    trimStart (s ++ t) = trimStart t :=
  List.dropWhile_append_of_pos h

theorem trimEnd_append (s : List Char) (h : ∀ c ∈ t, isBlank c = true) :
    trimEnd (s ++ t) = trimEnd s := by
  have hreverse : ∀ c ∈ t.reverse, isBlank c = true := fun c hc => h c (List.mem_reverse.mp hc)
  rw [trimEnd, List.reverse_append, List.dropWhile_append_of_pos hreverse, trimEnd]

theorem trim_trimStart : trim (trimStart s) = trim s := by
  rw [trim, trimStart_eq_self_iff.mpr trimStart_noLeadingBlank, trim]

/-- Blanks before a text are taken from it. -/
theorem trim_append_left (h : ∀ c ∈ s, isBlank c = true) (t : List Char) : trim (s ++ t) = trim t := by
  rw [trim, trimStart_append h, trim]

/-- Blanks behind a text are taken from it. -/
theorem trim_append (s : List Char) (h : ∀ c ∈ t, isBlank c = true) : trim (s ++ t) = trim s := by
  obtain ⟨b, hb, hs⟩ := exists_trimStart s
  cases hrest : trimStart s with
  | nil =>
    have hblank : ∀ c ∈ b ++ t, isBlank c = true := fun c hc => (List.mem_append.mp hc).elim (hb c) (h c)
    rw [hrest, List.append_nil] at hs
    rw [trim, trim, hrest, hs, trimStart, List.dropWhile_eq_nil_iff.mpr hblank]
  | cons c rest =>
    have hstart : trimStart (s ++ t) = trimStart s ++ t := by
      rw [trimStart, List.dropWhile_append, if_neg]
      · rfl
      · rw [← trimStart, hrest]
        exact Bool.false_ne_true
    rw [trim, hstart, trimEnd_append _ h, trim]

/-- The blanks around a text. -/
theorem exists_trim (s : List Char) : ∃ b b', (∀ c ∈ b, isBlank c = true) ∧
    (∀ c ∈ b', isBlank c = true) ∧ s = b ++ (trim s ++ b') := by
  obtain ⟨b, hb, hs⟩ := exists_trimStart s
  obtain ⟨b', hb', hs'⟩ := exists_trimEnd (trimStart s)
  exact ⟨b, b', hb, hb', hs.trans (congrArg (b ++ ·) hs')⟩

/-- The texts that are trimmed to nothing are those of blanks. -/
theorem trim_eq_nil_iff : trim s = [] ↔ ∀ c ∈ s, isBlank c = true := by
  constructor
  · intro h
    obtain ⟨b, b', hb, hb', hs⟩ := exists_trim s
    rw [h, List.nil_append] at hs
    rw [hs]
    exact List.forall_mem_append.mpr ⟨hb, hb'⟩
  · intro h
    rw [trim, trimStart, List.dropWhile_eq_nil_iff.mpr h]
    rfl

theorem trim_ne_nil_of_cons (hc : isBlank c = false) : trim (c :: s) ≠ [] := by
  intro hnil
  exact Bool.false_ne_true (hc.symm.trans (trim_eq_nil_iff.mp hnil c List.mem_cons_self))

theorem trim_append_ne_nil_left (h : trim s ≠ []) (t : List Char) : trim (s ++ t) ≠ [] := by
  intro hnil
  refine h (trim_eq_nil_iff.mpr fun c hc => ?_)
  exact trim_eq_nil_iff.mp hnil c (List.mem_append_left t hc)

theorem trim_append_ne_nil_right (s : List Char) (h : trim t ≠ []) : trim (s ++ t) ≠ [] := by
  intro hnil
  refine h (trim_eq_nil_iff.mpr fun c hc => ?_)
  exact trim_eq_nil_iff.mp hnil c (List.mem_append_right s hc)

/-- Trimming adds no character. -/
theorem mem_of_mem_trim (h : c ∈ trim s) : c ∈ s :=
  (List.dropWhile_suffix isBlank).subset (isPrefix_trimEnd.subset h)

/-! ## Parts -/

/-- No part holds a separator. -/
theorem not_mem_of_mem_splitOn (h : t ∈ s.splitOn sep) : sep ∉ t := by
  induction s generalizing t with
  | nil => rw [List.mem_singleton.mp h]; exact List.not_mem_nil
  | cons c s ih =>
    rw [List.splitOn_cons_eq_if_modifyHead] at h
    split at h
    · rcases List.mem_cons.mp h with rfl | h
      · exact List.not_mem_nil
      · exact ih h
    · rename_i hc
      -- The character joins the first part of the rest, and there is one.
      obtain ⟨part, parts, hparts⟩ := List.exists_cons_of_ne_nil (List.splitOn_ne_nil sep s)
      rw [hparts] at h ih
      rcases List.mem_cons.mp h with rfl | h
      · exact List.not_mem_cons_of_ne_of_not_mem (mt beq_iff_eq.mpr hc ∘ Eq.symm) (ih List.mem_cons_self)
      · exact ih (List.mem_cons_of_mem _ h)

/-- A character that is no separator is in the text if it is in one of the parts. -/
theorem exists_mem_splitOn_iff (hc : c ≠ sep) : (∃ part ∈ s.splitOn sep, c ∈ part) ↔ c ∈ s := by
  induction s with
  | nil => simp
  | cons d s ih =>
    obtain ⟨part, parts, hparts⟩ := List.exists_cons_of_ne_nil (List.splitOn_ne_nil sep s)
    rw [List.mem_cons, ← ih, List.splitOn_cons_eq_if_modifyHead, hparts]
    split
    · have hd : c ≠ d := fun h => hc (h.trans (beq_iff_eq.mp ‹_›))
      simp [hd]
    · simp [or_assoc]

end SchemaChange.Text
