import SchemaChange.Proofs.Statement.Reading
import SchemaChange.Proofs.Text.Lines

/-!
# What counts of a text

Two dashes outside of quotes begin a comment, and what precedes the first one is what counts of a text. A
text without a comment counts as a whole, also in front of another text, unless a region is open at its end or
the two make a comment together. Of a text with one, nothing that is added to it counts.

* `effective_append`, `effective_append_of_ne`: what counts of two texts;
* `trim_effective_trim`: the blanks around a text make no difference;
* `Joins.next`: a line is joined to the text that is under way;
* `ink`: a text without its blanks.
-/

namespace SchemaChange.Script

open Text

variable {p : Place} {c : Char} {s t : List Char}

/-! ## Effective texts -/

/-- What precedes the first two dashes that stand outside of quotes, in a text that is read from
    a place. -/
def effectiveFrom (p : Place) : List Char → List Char
  | [] => []
  | [c] => [c]
  | c :: next :: s =>
    if c = '-' ∧ next = '-' ∧ p.next '"' c = .outside then []
    else c :: effectiveFrom (p.next '"' c) (next :: s)

/-- What precedes the first comment of a text. -/
def effective (s : List Char) : List Char :=
  effectiveFrom .outside s

/-- No quoted region is open at the end of the text. -/
def Closed (s : List Char) : Prop :=
  ∀ r, Place.after '"' .outside s ≠ .inside r

theorem isPrefix_effectiveFrom (p : Place) (s : List Char) : effectiveFrom p s <+: s := by
  induction p, s using effectiveFrom.induct with
  | case1 => exact List.prefix_rfl
  | case2 p c => exact List.prefix_rfl
  | case3 p c next s hcomment =>
    rw [effectiveFrom, if_pos hcomment]
    exact List.nil_prefix
  | case4 p c next s hcomment ih =>
    rw [effectiveFrom, if_neg hcomment]
    exact (List.prefix_cons_inj c).2 ih

/-- Where no comment begins, the character is kept. -/
theorem effectiveFrom_cons (h : ¬ (c = '-' ∧ s.head? = some '-')) :
    effectiveFrom p (c :: s) = c :: effectiveFrom (p.next '"' c) s := by
  cases s with
  | nil => rfl
  | cons next s =>
    rw [effectiveFrom, if_neg]
    exact fun ⟨hc, hnext, _⟩ => h ⟨hc, congrArg some hnext⟩

/-- What follows a comment does not count. -/
theorem effectiveFrom_append_of_ne (h : effectiveFrom p s ≠ s) (t : List Char) :
    effectiveFrom p (s ++ t) = effectiveFrom p s := by
  induction p, s using effectiveFrom.induct with
  | case1 => exact absurd rfl h
  | case2 p c => exact absurd rfl h
  | case3 p c next s hcomment =>
    rw [List.cons_append, List.cons_append, effectiveFrom, effectiveFrom, if_pos hcomment,
      if_pos hcomment]
  | case4 p c next s hcomment ih =>
    rw [effectiveFrom, if_neg hcomment] at h
    rw [List.cons_append, List.cons_append, effectiveFrom, effectiveFrom, if_neg hcomment,
      if_neg hcomment, ← List.cons_append, ih fun heq => h (congrArg (c :: ·) heq)]

/-- A text without a comment is kept in front of another one, unless the two make a comment together. -/
theorem effectiveFrom_append (h : effectiveFrom p s = s)
    (hdash : s.getLast? = some '-' → t.head? ≠ some '-') :
    effectiveFrom p (s ++ t) = s ++ effectiveFrom (p.after '"' s) t := by
  induction p, s using effectiveFrom.induct with
  | case1 => rfl
  | case2 p c => exact effectiveFrom_cons fun ⟨hc, ht⟩ => hdash (congrArg some hc) ht
  | case3 p c next s hcomment =>
    rw [effectiveFrom, if_pos hcomment] at h
    cases h
  | case4 p c next s hcomment ih =>
    rw [effectiveFrom, if_neg hcomment] at h
    rw [List.cons_append, List.cons_append, effectiveFrom, if_neg hcomment, ← List.cons_append,
      ih (List.cons.inj h).2 fun hlast => hdash (hlast ▸ List.getLast?_cons_cons)]
    rfl

/-- Where no region is open, a text is read as from its beginning. -/
theorem effectiveFrom_of_isOpened (h : p.IsOpened '"') (hclosed : ∀ r, p ≠ .inside r) :
    effectiveFrom p s = effective s := by
  rcases s with _ | ⟨c, _ | ⟨next, s⟩⟩
  · rfl
  · rfl
  · have hnext : p.next '"' c = Place.next '"' .outside c := Place.next_of_isOpened h hclosed c
    rw [effective, effectiveFrom, effectiveFrom, hnext]

theorem isPrefix_effective (s : List Char) : effective s <+: s :=
  isPrefix_effectiveFrom _ _

theorem effective_append_of_ne (h : effective s ≠ s) (t : List Char) :
    effective (s ++ t) = effective s :=
  effectiveFrom_append_of_ne h t

theorem effective_append (h : effective s = s) (hclosed : Closed s)
    (hdash : s.getLast? = some '-' → t.head? ≠ some '-') : effective (s ++ t) = s ++ effective t := by
  rw [effective, effectiveFrom_append h hdash]
  rw [effectiveFrom_of_isOpened (Place.isOpened_after '"' s) hclosed]

/-- What begins a text without a comment has none. -/
theorem effective_of_append (h : effective (s ++ t) = s ++ t) : effective s = s := by
  by_contra hne
  have hprefix : s ++ t <+: s := by
    rw [← h, effective_append_of_ne hne]
    exact isPrefix_effective s
  have hnil : t = [] := by
    have hlength := hprefix.length_le
    rw [List.length_append] at hlength
    exact List.length_eq_zero_iff.mp (by omega)
  rw [hnil, List.append_nil] at h
  exact hne h

theorem effective_effective (s : List Char) : effective (effective s) = effective s := by
  by_contra hne
  obtain ⟨t, ht⟩ := isPrefix_effective s
  have heq := effective_append_of_ne hne t
  rw [ht] at heq
  exact hne heq.symm

/-- A text that begins with no comment keeps its first character. -/
theorem effective_cons (h : ¬ "--".toList <+: c :: s) : ∃ t, effective (c :: s) = c :: t := by
  refine ⟨_, effectiveFrom_cons fun ⟨hc, hs⟩ => h ?_⟩
  obtain ⟨s, rfl⟩ := List.head?_eq_some_iff.mp hs
  rw [hc]
  exact List.prefix_append ['-', '-'] s

/-! ## Blanks -/

/-- Outside of regions a blank opens none. -/
theorem opened_of_isBlank (h : isBlank c = true) : Place.opened '"' c = .outside := by
  refine if_neg ?_
  rintro (rfl | rfl) <;> cases h

theorem isBlank_of_mem_space : ∀ c ∈ [' '], isBlank c = true :=
  List.forall_mem_singleton.mpr rfl

theorem after_of_blank (h : ∀ c ∈ s, isBlank c = true) : Place.after '"' .outside s = .outside := by
  induction s with
  | nil => rfl
  | cons c s ih =>
    obtain ⟨hc, hs⟩ := List.forall_mem_cons.mp h
    change Place.after '"' (Place.opened '"' c) s = _
    rw [opened_of_isBlank hc, ih hs]

/-- A region that is open stays open over blanks. -/
theorem after_inside_of_blank {r : Char} (hr : (Place.inside r).IsOpened '"')
    (h : ∀ c ∈ s, isBlank c = true) : Place.after '"' (.inside r) s = .inside r := by
  induction s with
  | nil => rfl
  | cons c s ih =>
    obtain ⟨hc, hs⟩ := List.forall_mem_cons.mp h
    have hne : c ≠ r := by
      rintro rfl
      cases hr.symm.trans (opened_of_isBlank hc)
    have hnext : Place.next '"' (.inside r) c = .inside r := if_neg hne
    change Place.after '"' (Place.next '"' (.inside r) c) s = _
    rw [hnext, ih hs]

theorem effectiveFrom_of_notMem (h : '-' ∉ s) : effectiveFrom p s = s := by
  induction s generalizing p with
  | nil => rfl
  | cons c s ih =>
    obtain ⟨hc, hs⟩ := not_or.mp (List.mem_cons.not.mp h)
    rw [effectiveFrom_cons fun hdashes => hc hdashes.1.symm, ih hs]

theorem dash_notMem_of_blank (h : ∀ c ∈ s, isBlank c = true) : '-' ∉ s :=
  fun hdash => absurd (h _ hdash) (by decide)

/-- Blanks before a text, and the text. -/
theorem effective_blank_append (h : ∀ c ∈ s, isBlank c = true) (t : List Char) :
    effective (s ++ t) = s ++ effective t := by
  have hdash := dash_notMem_of_blank h
  refine effective_append (effectiveFrom_of_notMem hdash) ?_ fun hlast => ?_
  · intro r
    rw [after_of_blank h]
    exact nofun
  · exact absurd (List.mem_of_getLast? hlast) hdash

theorem effective_trimStart (s : List Char) : effective (trimStart s) = trimStart (effective s) := by
  obtain ⟨b, hb, hs⟩ := exists_trimStart s
  have hstart : NoLeadingBlank (effective (trimStart s)) :=
    trimStart_noLeadingBlank.mono (isPrefix_effective _)
  have heffective : effective s = b ++ effective (trimStart s) := by
    rw [← effective_blank_append hb, ← hs]
  rw [heffective, trimStart_append hb]
  exact (trimStart_eq_self_iff.mpr hstart).symm

/-- A comment begins before what has no dashes. -/
theorem effective_left_of_ne (h : effective (s ++ t) ≠ s ++ t) (ht : '-' ∉ t) :
    effective s = effective (s ++ t) ∧ effective s ≠ s := by
  have hne : effective s ≠ s := by
    intro heq
    refine h ?_
    rw [effective, effectiveFrom_append heq fun _ hhead => ht (List.mem_of_mem_head? hhead),
      effectiveFrom_of_notMem ht]
  exact ⟨(effective_append_of_ne hne t).symm, hne⟩

theorem effective_trimEnd_of_ne (h : effective s ≠ s) :
    effective (trimEnd s) = effective s ∧ effective (trimEnd s) ≠ trimEnd s := by
  obtain ⟨b, hb, hs⟩ := exists_trimEnd s
  rw [hs] at h
  have hleft := effective_left_of_ne h (dash_notMem_of_blank hb)
  rwa [← hs] at hleft

/-- The blanks around a line make no difference to its comment. -/
theorem effective_trim_of_ne (h : effective s ≠ s) :
    effective (trim s) = trimStart (effective s) ∧ effective (trim s) ≠ trim s := by
  obtain ⟨b, hb, hs⟩ := exists_trimStart s
  have hstart : effective (trimStart s) ≠ trimStart s := by
    intro heq
    refine h ?_
    rw [hs, effective_blank_append hb, heq]
  rw [← effective_trimStart]
  exact effective_trimEnd_of_ne hstart

/-- The blanks around a text change no more than the blanks around what counts of it. -/
theorem trim_effective_trim (s : List Char) : trim (effective (trim s)) = trim (effective s) := by
  rw [← trim_trimStart (s := effective s), ← effective_trimStart]
  by_cases h : effective (trimStart s) = trimStart s
  · -- Without a comment nothing but the blanks is taken away.
    obtain ⟨b, hb, hs⟩ := exists_trimEnd (trimStart s)
    have hend : effective (trim s) = trim s := by
      refine effective_of_append (t := b) ?_
      rwa [trim, ← hs]
    rw [h, hend, trim_trim, trim_trimStart]
  · exact congrArg trim (effective_trimEnd_of_ne h).1

theorem trim_ne_nil_of_effective_ne (h : effective s ≠ s) : trim s ≠ [] := by
  intro hnil
  exact h (effectiveFrom_of_notMem (dash_notMem_of_blank (trim_eq_nil_iff.mp hnil)))

/-! ## Texts under way -/

/-- What is added to the text is read as if it stood alone, unless the text ends in a comment. -/
def Joins (s : List Char) : Prop :=
  effective s = s → Closed s ∧ s.getLast? ≠ some '-'

theorem Joins.nil : Joins [] :=
  fun _ => ⟨nofun, nofun⟩

/-- Only what counts of an addition makes a difference. -/
theorem Joins.effective_append (h : Joins s) (t : List Char) :
    effective (s ++ t) = if effective s = s then s ++ effective t else effective s := by
  split
  · rename_i heq
    exact Script.effective_append heq (h heq).1 fun hdash => absurd hdash (h heq).2
  · exact effective_append_of_ne ‹_› t

theorem Joins.effective_congr {u : List Char} (h : Joins s) (heq : effective t = effective u) :
    effective (s ++ t) = effective (s ++ u) := by
  rw [h.effective_append, h.effective_append, heq]

theorem Joins.effective_append_ne (h : Joins s) (ht : effective t ≠ t) :
    effective (s ++ t) ≠ s ++ t := by
  intro heq
  have hs := effective_of_append heq
  rw [h.effective_append, if_pos hs] at heq
  exact ht (List.append_cancel_left heq)

theorem Closed.append (hs : Closed s) (ht : Closed t) : Closed (s ++ t) := by
  by_cases hne : t = []
  · rwa [hne, List.append_nil]
  · intro r
    rw [Place.after_append, Place.after_of_isOpened (Place.isOpened_after '"' s) hs hne]
    exact ht r

theorem closed_of_blank (h : ∀ c ∈ s, isBlank c = true) : Closed s := by
  intro r
  rw [after_of_blank h]
  exact nofun

theorem Closed.trim (h : Closed s) : Closed (trim s) := by
  obtain ⟨b, b', hb, hb', hs⟩ := exists_trim s
  intro r hr
  have hopened := Place.isOpened_after '"' (Text.trim s)
  rw [hr] at hopened
  refine h r ?_
  rw [hs, Place.after_append, after_of_blank hb, Place.after_append, hr, after_inside_of_blank hopened hb']

/-- A comment begins outside of regions. -/
theorem closed_of_comment (h : effective s ≠ s) : Closed (effective s) := by
  -- The text may begin in a region, so the induction is over the place as well.
  suffices hfrom : ∀ p, effectiveFrom p s ≠ s → ∀ r, p.after '"' (effectiveFrom p s) ≠ .inside r from
    hfrom _ h
  clear h
  intro p
  induction p, s using effectiveFrom.induct with
  | case1 => exact fun h => absurd rfl h
  | case2 p c => exact fun h => absurd rfl h
  | case3 p c next s hcomment =>
    rintro - r hr
    rw [effectiveFrom, if_pos hcomment] at hr
    obtain rfl : p = .inside r := hr
    have hplace := hcomment.2.2
    rw [Place.next] at hplace
    split at hplace <;> cases hplace
  | case4 p c next s hcomment ih =>
    rw [effectiveFrom, if_neg hcomment]
    exact fun h => ih fun heq => h (congrArg (c :: ·) heq)

/-- A line is joined to the text under way. -/
theorem Joins.next (h : Joins s) (ht : Closed (effective t)) : Joins (s ++ trim t ++ [' ']) := by
  intro heq
  refine ⟨?_, ?_⟩
  · -- Neither the text nor the line has a comment, so no region is open after either.
    have heq' := effective_of_append (effective_of_append heq)
    have htrim : effective (trim t) = trim t := by
      have hjoined := effective_of_append heq
      rw [h.effective_append, if_pos heq'] at hjoined
      exact List.append_cancel_left hjoined
    have heffective : effective t = t := by
      by_contra hne
      exact (effective_trim_of_ne hne).2 htrim
    rw [heffective] at ht
    exact ((h heq').1.append ht.trim).append (closed_of_blank isBlank_of_mem_space)
  · rw [List.getLast?_concat]
    decide

/-- A text without a comment has none after a line without a comment is joined to it. -/
theorem Joins.effective_next (h : Joins s) (hs : effective s = s) (ht : effective t = t) :
    effective (s ++ trim t ++ [' ']) = s ++ trim t ++ [' '] := by
  have htrim : effective (trim t ++ [' ']) = trim t ++ [' '] := by
    obtain ⟨b, b', hb, -, heq⟩ := exists_trim t
    have hright : effective (trim t ++ b') = trim t ++ b' := by
      rw [heq, effective_blank_append hb] at ht
      exact List.append_cancel_left ht
    rw [effective, effectiveFrom_append (effective_of_append hright) fun _ => by decide]
    rfl
  rw [List.append_assoc, h.effective_append, if_pos hs, htrim]

/-! ## Without the blanks -/

/-- A text without its blanks. -/
def ink (s : List Char) : List Char :=
  s.filter (!isBlank ·)

theorem ink_append (s t : List Char) : ink (s ++ t) = ink s ++ ink t :=
  List.filter_append ..

theorem ink_cons (hc : isBlank c = false) (s : List Char) : ink (c :: s) = c :: ink s :=
  List.filter_cons_of_pos (by rw [hc]; rfl)

theorem ink_of_blank (h : ∀ c ∈ s, isBlank c = true) : ink s = [] :=
  List.filter_eq_nil_iff.mpr fun c hc => by rw [h c hc]; decide

theorem ink_trim (s : List Char) : ink (trim s) = ink s := by
  obtain ⟨b, b', hb, hb', hs⟩ := exists_trim s
  conv_rhs => rw [hs]
  rw [ink_append, ink_append, ink_of_blank hb, ink_of_blank hb', List.nil_append, List.append_nil]

/-- What is added to a text without a comment counts from its beginning. -/
theorem exists_ink_append (h : Joins s) (hs : effective s = s) (hc : isBlank c = false)
    (hcomment : ¬ "--".toList <+: c :: t) : ∃ u, ink (effective (s ++ c :: t)) = ink s ++ c :: u := by
  obtain ⟨u, hu⟩ := effective_cons hcomment
  refine ⟨ink u, ?_⟩
  rw [h.effective_append, if_pos hs, hu, ink_append, ink_cons hc]

end SchemaChange.Script
