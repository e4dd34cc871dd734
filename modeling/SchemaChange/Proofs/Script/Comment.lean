import SchemaChange.Proofs.Script.Effective
import SchemaChange.Proofs.Script.Splitting

/-!
# Comments behind the text of a line

A comment ends what counts of its statement, since the lines of a statement are joined into one: whatever
follows it, up to the line that ends the statement, is swallowed. A semicolon before the comment counts as text
and one within it ends the statement. To take the comment away is therefore not to change a comment only.

The text under way may have a comment already; otherwise what is joined to it is read as if it stood alone
(`Joins`). That, and what a line does to it (`step`), carries the inductions over the lines.

* `effectiveTexts_of_comment`: what a comment swallows;
* `Commented.effectiveTexts_effective`, `Commented.swallowsNothing`: when it makes no difference;
* `split_comment`: a script with a comment and the same script without it;
* `split_comment_first`: a comment behind the first line of a statement makes a difference.
-/

namespace SchemaChange.Script

open Text

variable {s line current : List Char} {before after : List (List Char)}

/-! ## Lines -/

/-- The lines after the first one that ends a statement. -/
def afterStatement : List (List Char) → List (List Char)
  | [] => []
  | line :: lines => if endsStatement line then lines else afterStatement lines

/-! ## What counts of statements -/

/-- What counts of a statement. -/
def effectiveText (s : String) : List Char :=
  trim (effective s.toList)

/-- What counts of the statements of the lines to come. -/
def effectiveTexts (current : List Char) (lines : List (List Char)) : List (List Char) :=
  (splitLines current lines).map fun s => trim (effective s)

theorem map_effectiveText_split (script : String) :
    (split script).map effectiveText = effectiveTexts [] (script.toList.splitOn '\n') := by
  rw [split, List.map_map, effectiveTexts]
  exact List.map_congr_left fun s _ => congrArg (trim ∘ effective) String.toList_ofList

/-- What counts of the text of a statement, if there is something to it. -/
theorem map_statementOf (h : trim s ≠ []) :
    (statementOf s).map (fun s => trim (effective s)) = [trim (effective s)] := by
  have hne : ¬ (trim s).isEmpty = true := fun hnil => h (List.isEmpty_iff.mp hnil)
  rw [statementOf, if_neg hne, List.map_singleton, trim_effective_trim]

theorem effectiveTexts_of_statementOf {lines rest : List (List Char)} (h : trim s ≠ [])
    (heq : splitLines current lines = statementOf s ++ splitLines [] rest) :
    effectiveTexts current lines = trim (effective s) :: effectiveTexts [] rest := by
  rw [effectiveTexts, heq, List.map_append, map_statementOf h]
  rfl

/-- A comment swallows the rest of the statement under way. -/
theorem effectiveTexts_of_comment (h : effective current ≠ current) (lines : List (List Char)) :
    effectiveTexts current lines = trim (effective current) :: effectiveTexts [] (afterStatement lines) := by
  induction lines generalizing current with
  | nil => exact map_statementOf (trim_ne_nil_of_effective_ne h)
  | cons line lines ih =>
    have hadd : ∀ t, effective (current ++ t) = effective current := effective_append_of_ne h
    have hne : ∀ t, effective (current ++ t) ≠ current ++ t := fun t => mt effective_of_append h
    cases step line with
    | skipped _ hends step =>
      rw [effectiveTexts, step, ← effectiveTexts, ih h, afterStatement, hends]
      rfl
    | ends _ _ hends step =>
      rw [effectiveTexts_of_statementOf (trim_ne_nil_of_effective_ne (hne _)) (step _ _), hadd,
        afterStatement, hends]
      rfl
    | continues _ hends step =>
      have hcomment := ih (hne (trim line ++ [' ']))
      rw [effectiveTexts, step, List.append_assoc, ← effectiveTexts, hcomment, hadd, afterStatement,
        hends]
      rfl

/-! ## A comment behind the text of a line -/

/-- A line that is not skipped begins with a character that is no blank, and not as a comment. -/
theorem exists_cons_of_not_isSkipped (h : ¬ isSkipped (trim line) = true) :
    ∃ c t, trim line = c :: t ∧ isBlank c = false ∧ ¬ IsComment (c :: t) := by
  obtain ⟨hne, hcomment⟩ := not_or.mp (mt isSkipped_iff.mpr h)
  obtain ⟨c, t, heq⟩ := List.exists_cons_of_ne_nil hne
  exact ⟨c, t, heq, trim_noLeadingBlank c (by rw [heq]; rfl), heq ▸ hcomment⟩

/-- A line with a comment behind its text. -/
structure Commented (line : List Char) : Prop where
  notSkipped : ¬ isSkipped (trim line) = true
  hasComment : effective line ≠ line

namespace Commented

/-- What counts of the line is not skipped. -/
theorem noComment (h : Commented line) : ¬ IsComment (effective (trim line)) :=
  fun hcomment => h.notSkipped (isSkipped_iff.mpr (.inr (hcomment.mono (isPrefix_effective _))))

/-- What counts of the line begins with its first character, and this is no blank. -/
theorem exists_cons (h : Commented line) : ∃ c t, effective (trim line) = c :: t ∧ isBlank c = false := by
  obtain ⟨c, s, hs, hc, hcomment⟩ := exists_cons_of_not_isSkipped h.notSkipped
  obtain ⟨t, ht⟩ := effective_cons fun hdashes => hcomment (.inl hdashes)
  exact ⟨c, t, hs ▸ ht, hc⟩

theorem nonempty (h : Commented line) : effective (trim line) ≠ [] := by
  obtain ⟨c, t, heq, -⟩ := h.exists_cons
  rw [heq]
  exact List.cons_ne_nil c t

theorem trim_ne_nil (h : Commented line) : trim (effective (trim line)) ≠ [] := by
  obtain ⟨c, t, heq, hc⟩ := h.exists_cons
  rw [heq]
  exact trim_ne_nil_of_cons hc

/-- What counts of the line, and the blanks before the comment. -/
theorem exists_blanks (h : Commented line) : ∃ b, (∀ c ∈ b, isBlank c = true) ∧
    effective (trim line) = trim (effective line) ++ b := by
  rw [(effective_trim_of_ne h.hasComment).1]
  exact exists_trimEnd _

/-- The line is not skipped when it loses its comment. -/
theorem effective_notSkipped (h : Commented line) : ¬ isSkipped (trim (effective line)) = true := by
  obtain ⟨b, hb, heq⟩ := h.exists_blanks
  intro hskipped
  rcases isSkipped_iff.mp hskipped with hnil | hcomment
  · rw [hnil, List.nil_append] at heq
    exact h.trim_ne_nil (trim_eq_nil_iff.mpr (heq ▸ hb))
  · exact h.noComment (hcomment.mono ⟨b, heq.symm⟩)

/-- With a semicolon in place of its comment, the line ends the statement. -/
theorem splitLines_terminated (h : Commented line) (current : List Char) (lines : List (List Char)) :
    splitLines current ((effective line ++ [';']) :: lines) =
      statementOf (current ++ effective (trim line)) ++ splitLines [] lines := by
  obtain ⟨b, hb, hline⟩ := exists_trimStart (effective line)
  rw [← (effective_trim_of_ne h.hasComment).1] at hline
  have htrim : trim (effective line ++ [';']) = effective (trim line) ++ [';'] := by
    rw [hline, List.append_assoc, trim_append_left hb]
    exact trim_append_semicolon (trim_noLeadingBlank.mono (isPrefix_effective _)) h.nonempty
  refine splitLines_of_ends ?_ htrim current lines
  rw [htrim]
  exact not_isSkipped_append_semicolon h.nonempty h.noComment

/-- The comment ends what counts of the statement under way, and the statement goes on unseen to the line
    that ends it. -/
theorem effectiveTexts_cons (h : Commented line) (hcurrent : Joins current) :
    effectiveTexts current (line :: after) = trim (effective (current ++ effective (trim line))) ::
      effectiveTexts [] (afterStatement (line :: after)) := by
  have hcomment := (effective_trim_of_ne h.hasComment).2
  rw [hcurrent.effective_congr (effective_effective (trim line))]
  cases step line with
  | skipped hskipped => exact absurd hskipped h.notSkipped
  | @ends body _ hbody hends step =>
    -- The comment ends in the semicolon that is taken away, and begins before it.
    obtain ⟨heq, hne⟩ := effective_left_of_ne (s := body) (t := [';']) (hbody ▸ hcomment) (by decide)
    have hnonblank := trim_ne_nil_of_effective_ne (hcurrent.effective_append_ne hne)
    rw [effectiveTexts_of_statementOf hnonblank (step _ _), hcurrent.effective_congr heq, ← hbody,
      afterStatement, hends]
    rfl
  | continues _ hends step =>
    have hne := hcurrent.effective_append_ne hcomment
    have hne' : effective (current ++ trim line ++ [' ']) ≠ current ++ trim line ++ [' '] :=
      mt effective_of_append hne
    rw [effectiveTexts, step, ← effectiveTexts, effectiveTexts_of_comment hne', effective_append_of_ne hne,
      afterStatement, hends]
    rfl

/-- The same comes of the line that ends the statement there, and of the lines after the statement. -/
theorem effectiveTexts_terminated (h : Commented line) (hcurrent : Joins current) :
    effectiveTexts current (line :: after) =
      effectiveTexts current ((effective line ++ [';']) :: afterStatement (line :: after)) := by
  have hnonblank := trim_append_ne_nil_right current h.trim_ne_nil
  rw [h.effectiveTexts_cons hcurrent,
    effectiveTexts_of_statementOf hnonblank (h.splitLines_terminated _ _)]

end Commented

/-! ## The lines behind a comment -/

/-- Nothing but a semicolon follows: the next line that is not skipped, if there is one, holds
    no more. -/
def OnlyEnds (lines : List (List Char)) : Prop :=
  ∀ next ∈ (lines.filter fun line => !isSkipped (trim line)).head?, trim next = [';']

/-- The comment swallows nothing: what counts of the line does not end the statement, and nothing but a
    semicolon follows. -/
structure SwallowsNothing (line : List Char) (after : List (List Char)) : Prop where
  notEnded : endsStatement (effective line) = false
  onlyEnds : OnlyEnds after

theorem onlyEnds_of_isSkipped (h : isSkipped (trim line) = true) :
    OnlyEnds (line :: after) ↔ OnlyEnds after := by
  rw [OnlyEnds, List.filter_cons_of_neg (by rw [h]; decide), OnlyEnds]

theorem onlyEnds_of_not_isSkipped (h : ¬ isSkipped (trim line) = true) :
    OnlyEnds (line :: after) ↔ trim line = [';'] := by
  rw [OnlyEnds, List.filter_cons_of_pos (by simpa using h), List.head?_cons]
  exact ⟨fun hall => hall line rfl, fun heq next hnext => Option.some.inj hnext ▸ heq⟩

/-- Where nothing but a semicolon follows, the statement under way ends as it is. -/
theorem OnlyEnds.splitLines_eq (h : OnlyEnds after) (current : List Char) :
    splitLines current after = statementOf current ++ splitLines [] (afterStatement after) := by
  induction after with
  | nil => exact (List.append_nil _).symm
  | cons line lines ih =>
    cases step line with
    | skipped hskipped hends step =>
      rw [step, ih ((onlyEnds_of_isSkipped hskipped).mp h), afterStatement, hends]
      rfl
    | @ends body hskipped hbody hends step =>
      have hnil : body = [] := by
        have heq := hbody.symm.trans ((onlyEnds_of_not_isSkipped hskipped).mp h)
        exact List.append_cancel_right (heq.trans (List.nil_append [';']).symm)
      rw [step, hnil, List.append_nil, afterStatement, hends]
      rfl
    | continues hskipped hends =>
      rw [endsStatement, (onlyEnds_of_not_isSkipped hskipped).mp h] at hends
      cases hends

/-- Whatever the comment ends in, the lines after the statement are the same. -/
theorem OnlyEnds.splitLines_afterStatement (h : OnlyEnds after) :
    splitLines [] (afterStatement (line :: after)) = splitLines [] (afterStatement after) := by
  rw [afterStatement]
  split
  · exact h.splitLines_eq []
  · rfl

/-- Without the comment, the line is in the statement under way, and this ends there. -/
theorem Commented.splitLines_effective (h : Commented line) (hswallows : SwallowsNothing line after)
    (current : List Char) : splitLines current (effective line :: after) =
      statementOf (current ++ effective (trim line)) ++ splitLines [] (afterStatement after) := by
  cases step (effective line) with
  | skipped hskipped => exact absurd hskipped h.effective_notSkipped
  | ends _ _ hends => exact absurd hends (Bool.eq_false_iff.mp hswallows.notEnded)
  | continues _ _ step =>
    obtain ⟨b, hb, heq⟩ := h.exists_blanks
    have htrim : trim (current ++ trim (effective line) ++ [' ']) =
        trim (current ++ effective (trim line)) := by
      rw [heq, ← List.append_assoc, trim_append _ hb, trim_append _ isBlank_of_mem_space]
    rw [step, hswallows.onlyEnds.splitLines_eq, statementOf, statementOf, htrim]

/-- A comment that swallows nothing makes no difference. -/
theorem Commented.effectiveTexts_effective (h : Commented line) (hswallows : SwallowsNothing line after)
    (hcurrent : Joins current) :
    effectiveTexts current (line :: after) = effectiveTexts current (effective line :: after) := by
  rw [h.effectiveTexts_terminated hcurrent, effectiveTexts, effectiveTexts, h.splitLines_terminated,
    h.splitLines_effective hswallows, hswallows.onlyEnds.splitLines_afterStatement]

/-! ## What a comment swallows -/

/-- A text that is under way begins the next statement. -/
theorem exists_effectiveTexts (h : trim current ≠ []) (lines : List (List Char)) :
    ∃ t texts, effectiveTexts current lines = trim (effective (current ++ t)) :: texts := by
  induction lines generalizing current with
  | nil =>
    refine ⟨[], [], ?_⟩
    rw [List.append_nil]
    exact map_statementOf h
  | cons line lines ih =>
    cases step line with
    | skipped _ _ step =>
      rw [effectiveTexts, step]
      exact ih h
    | ends _ _ _ step =>
      exact ⟨_, _, effectiveTexts_of_statementOf (trim_append_ne_nil_left h _) (step _ _)⟩
    | continues _ _ step =>
      obtain ⟨t, texts, heq⟩ := ih (trim_append_ne_nil_left h (trim line ++ [' ']))
      refine ⟨trim line ++ [' '] ++ t, texts, ?_⟩
      rw [effectiveTexts, step, List.append_assoc, ← effectiveTexts, heq, List.append_assoc]

/-- Without a comment before it, a line that holds more than a semicolon adds to the statement. -/
theorem exists_ink (hcurrent : Joins current) (hclean : effective current = current)
    (hnonblank : trim current ≠ []) (h : ¬ OnlyEnds after) :
    ∃ c t texts, (effectiveTexts current after).map ink = (ink current ++ c :: t) :: texts := by
  induction after with
  | nil => exact absurd (nofun : OnlyEnds []) h
  | cons line lines ih =>
    cases step line with
    | skipped hskipped _ step =>
      rw [effectiveTexts, step]
      exact ih (mt (onlyEnds_of_isSkipped hskipped).mpr h)
    | @ends body hskipped hbody _ step =>
      obtain ⟨c, s, hs, hc, hcomment⟩ := exists_cons_of_not_isSkipped hskipped
      cases body with
      | nil => exact absurd ((onlyEnds_of_not_isSkipped hskipped).mpr hbody) h
      | cons c' body =>
        -- Before the semicolon stands what the line begins with, and this is no blank.
        obtain rfl : c = c' := (List.cons.inj (hs.symm.trans hbody)).1
        have hbegins : ¬ IsComment (c :: body) :=
          fun hbody' => hcomment (hbody'.mono ⟨[';'], hbody.symm.trans hs⟩)
        obtain ⟨u, hu⟩ := exists_ink_append hcurrent hclean hc (mt .inl hbegins)
        refine ⟨c, u, (effectiveTexts [] lines).map ink, ?_⟩
        rw [effectiveTexts_of_statementOf (trim_append_ne_nil_left hnonblank _) (step _ _), List.map_cons,
          ink_trim, hu]
    | continues hskipped _ step =>
      obtain ⟨c, s, hs, hc, hcomment⟩ := exists_cons_of_not_isSkipped hskipped
      obtain ⟨t, texts, heq⟩ :=
        exists_effectiveTexts (trim_append_ne_nil_left hnonblank (trim line ++ [' '])) lines
      -- The space that is put behind the line makes no comment of its beginning.
      have hbegins : ¬ IsComment (c :: (s ++ ' ' :: t)) :=
        not_isComment_append (List.cons_ne_nil c s) hcomment (by decide) (by decide)
      obtain ⟨u, hu⟩ := exists_ink_append hcurrent hclean hc (mt .inl hbegins)
      refine ⟨c, u, texts.map ink, ?_⟩
      rw [hs, List.append_assoc, List.append_assoc] at heq
      rw [effectiveTexts, step, List.append_assoc, ← effectiveTexts, hs, heq, List.map_cons, ink_trim]
      exact congrArg (· :: _) hu

namespace Commented

variable (h : Commented line) (hcurrent : Joins current) (hclean : effective current = current)

include h hcurrent hclean

/-- What counts of a statement ends at its first comment. -/
theorem map_ink_effectiveTexts : (effectiveTexts current (line :: after)).map ink =
    (ink current ++ ink (effective line)) :: (effectiveTexts [] (afterStatement (line :: after))).map ink := by
  obtain ⟨b, hb, hblanks⟩ := h.exists_blanks
  have hink : ink (effective (trim line)) = ink (effective line) := by
    rw [hblanks, ink_append, ink_of_blank hb, List.append_nil, ink_trim]
  rw [h.effectiveTexts_cons hcurrent, List.map_cons, ink_trim, hcurrent.effective_append, if_pos hclean,
    effective_effective, ink_append, hink]

/-- A semicolon before the comment counts, and if the comment is not there it ends the statement. -/
theorem exists_ink_of_ends (hended : endsStatement (effective line) = true)
    (hsemicolon : trim (effective line) ≠ [';']) (after : List (List Char)) :
    ∃ t texts, ink (effective line) = t ++ [';'] ∧
      (effectiveTexts current (effective line :: after)).map ink = (ink current ++ t) :: texts := by
  cases step (effective line) with
  | skipped _ hends | continues _ hends => exact absurd (hends.symm.trans hended) Bool.false_ne_true
  | @ends body hskipped hbody _ step =>
    obtain ⟨c, s, hs, hc, -⟩ := exists_cons_of_not_isSkipped hskipped
    have hnonblank : trim body ≠ [] := by
      cases body with
      | nil => exact absurd hbody hsemicolon
      | cons c' body =>
        obtain rfl : c = c' := (List.cons.inj (hs.symm.trans hbody)).1
        exact trim_ne_nil_of_cons hc
    have hbodyClean : effective body = body := by
      obtain ⟨b, -, hblanks⟩ := h.exists_blanks
      have hall := effective_effective (trim line)
      rw [hblanks, hbody, List.append_assoc] at hall
      exact effective_of_append hall
    refine ⟨ink body, (effectiveTexts [] after).map ink, ?_, ?_⟩
    · rw [← ink_trim, hbody, ink_append]
      rfl
    · rw [effectiveTexts_of_statementOf (trim_append_ne_nil_right _ hnonblank) (step _ _), List.map_cons,
        ink_trim, hcurrent.effective_append, if_pos hclean, hbodyClean, ink_append]

/-- If the comment is not there, the lines behind it count. -/
theorem exists_ink_of_continues (hended : endsStatement (effective line) = false)
    (honly : ¬ OnlyEnds after) :
    ∃ c t texts, (effectiveTexts current (effective line :: after)).map ink =
      (ink current ++ ink (effective line) ++ c :: t) :: texts := by
  cases step (effective line) with
  | skipped hskipped => exact absurd hskipped h.effective_notSkipped
  | ends _ _ hends => exact absurd (hended.symm.trans hends) Bool.false_ne_true
  | continues hskipped _ step =>
    obtain ⟨c, s, hs, hc, -⟩ := exists_cons_of_not_isSkipped hskipped
    have hjoins : Joins (current ++ trim (effective line) ++ [' ']) := by
      refine hcurrent.next ?_
      rw [effective_effective]
      exact closed_of_comment h.hasComment
    have hnonblank : trim (current ++ trim (effective line) ++ [' ']) ≠ [] := by
      rw [hs]
      exact trim_append_ne_nil_left (trim_append_ne_nil_right current (trim_ne_nil_of_cons hc)) [' ']
    obtain ⟨c, t, texts, hink⟩ := exists_ink hjoins
      (hcurrent.effective_next hclean (effective_effective line)) hnonblank honly
    refine ⟨c, t, texts, ?_⟩
    rw [effectiveTexts, step, ← effectiveTexts, hink, ink_append, ink_append, ink_trim,
      ink_of_blank isBlank_of_mem_space, List.append_nil]

/-- The first comment of a statement makes a difference if it swallows something. -/
theorem swallowsNothing (hsemicolon : trim (effective line) ≠ [';'])
    (heq : (effectiveTexts current (line :: after)).map ink =
      (effectiveTexts current (effective line :: after)).map ink) : SwallowsNothing line after := by
  rw [h.map_ink_effectiveTexts hcurrent hclean] at heq
  have hnotEnded : endsStatement (effective line) = false := by
    by_contra hended
    obtain ⟨t, texts, hink, htexts⟩ := h.exists_ink_of_ends hcurrent hclean
      (eq_true_of_ne_false hended) hsemicolon after
    rw [htexts, hink] at heq
    have hlength := congrArg List.length (List.append_cancel_left (List.cons.inj heq).1)
    rw [List.length_append] at hlength
    exact absurd hlength (Nat.succ_ne_self _)
  refine ⟨hnotEnded, by_contra fun honly => ?_⟩
  obtain ⟨c, t, texts, htexts⟩ := h.exists_ink_of_continues hcurrent hclean hnotEnded honly
  rw [htexts] at heq
  have hnil := List.self_eq_append_right.mp (List.cons.inj heq).1
  exact List.cons_ne_nil c t hnil

end Commented

/-! ## Scripts -/

/-- The statement that is under way after the lines has a comment already. -/
def InComment (lines : List (List Char)) : Prop :=
  ∃ first earlier between, lines = first ++ earlier :: between ∧ Commented earlier ∧
    ∀ line ∈ earlier :: between, endsStatement line = false

theorem InComment.cons (h : InComment before) (line : List Char) : InComment (line :: before) := by
  obtain ⟨first, earlier, between, rfl, hearlier, hends⟩ := h
  exact ⟨line :: first, earlier, between, rfl, hearlier, hends⟩

theorem exists_ends_of_cons {lines : List (List Char)} (hends : endsStatement line = false)
    (h : ∃ l ∈ line :: lines, endsStatement l = true) : ∃ l ∈ lines, endsStatement l = true := by
  obtain ⟨l, hl, hends'⟩ := h
  refine ⟨l, (List.mem_cons.mp hl).resolve_left ?_, hends'⟩
  rintro rfl
  exact Bool.false_ne_true (hends.symm.trans hends')

/-- The statements of the first lines, and the text that is under way after them. It has no comment, if
    it had none before or a statement ends, and no comment is in the last statement. -/
theorem exists_underWay
    (hclosed : ∀ line ∈ before, ¬ isSkipped (trim line) = true → Closed (effective line))
    (h : Joins current) : ∃ texts next, Joins next ∧
      (¬ InComment before → effective current = current ∨ (∃ line ∈ before, endsStatement line = true) →
        effective next = next) ∧
      ∀ after, effectiveTexts current (before ++ after) = texts ++ effectiveTexts next after := by
  induction before generalizing current with
  | nil =>
    refine ⟨[], current, h, fun _ hclean => hclean.resolve_right ?_, fun _ => rfl⟩
    rintro ⟨line, hline, -⟩
    exact List.not_mem_nil hline
  | cons line lines ih =>
    obtain ⟨hline, hlines⟩ := List.forall_mem_cons.mp hclosed
    cases step line with
    | skipped hskipped hends step =>
      obtain ⟨texts, next, hnext, hclean, heq⟩ := ih hlines h
      refine ⟨texts, next, hnext, fun hin hcurrent => ?_, fun after => ?_⟩
      · exact hclean (fun hin' => hin (hin'.cons line)) (hcurrent.imp_right (exists_ends_of_cons hends))
      · rw [List.cons_append, effectiveTexts, step]
        exact heq after
    | @ends body _ _ _ step =>
      obtain ⟨texts, next, hnext, hclean, heq⟩ := ih hlines .nil
      refine ⟨(statementOf (current ++ body)).map (fun s => trim (effective s)) ++ texts, next, hnext,
        fun hin _ => hclean (fun hin' => hin (hin'.cons line)) (.inl rfl), fun after => ?_⟩
      rw [List.cons_append, effectiveTexts, step, List.map_append, List.append_assoc, ← heq,
        effectiveTexts]
    | continues hskipped hends step =>
      obtain ⟨texts, next, hnext, hclean, heq⟩ := ih hlines (h.next (hline hskipped))
      refine ⟨texts, next, hnext, fun hin hcurrent => ?_, fun after => ?_⟩
      · refine hclean (fun hin' => hin (hin'.cons line)) ?_
        rcases hcurrent with hcurrent | hcurrent
        · -- A comment in this line is in the last statement, unless a later line ends the one it is in.
          by_cases hcomment : effective line = line
          · exact .inl (h.effective_next hcurrent hcomment)
          · by_contra hnone
            obtain ⟨-, hnone⟩ := not_or.mp hnone
            refine hin ⟨[], line, lines, rfl, ⟨hskipped, hcomment⟩, List.forall_mem_cons.mpr ⟨hends, ?_⟩⟩
            exact fun l hl => Bool.eq_false_iff.mpr fun hends' => hnone ⟨l, hl, hends'⟩
        · exact .inr (exists_ends_of_cons hends hcurrent)
      · rw [List.cons_append, effectiveTexts, step]
        exact heq after

theorem afterStatement_append (h : ∀ line ∈ before, endsStatement line = false) :
    afterStatement (before ++ after) = afterStatement after := by
  induction before with
  | nil => rfl
  | cons line lines ih =>
    obtain ⟨hline, hlines⟩ := List.forall_mem_cons.mp h
    rw [List.cons_append, afterStatement, hline]
    exact ih hlines

/-- In a statement that has a comment already, only the end of the statement matters. -/
theorem InComment.effectiveTexts_eq {line' : List Char} (h : InComment before)
    (hclosed : ∀ line ∈ before, ¬ isSkipped (trim line) = true → Closed (effective line))
    (hends : endsStatement line = endsStatement line') :
    effectiveTexts [] (before ++ line :: after) = effectiveTexts [] (before ++ line' :: after) := by
  obtain ⟨first, earlier, between, rfl, hearlier, hnone⟩ := h
  obtain ⟨texts, current, hcurrent, -, heq⟩ :=
    exists_underWay (fun l hl => hclosed l (List.mem_append_left _ hl)) .nil
  have hafter : ∀ l, afterStatement (earlier :: (between ++ l :: after)) = afterStatement (l :: after) :=
    fun l => afterStatement_append hnone
  have hsame : afterStatement (line :: after) = afterStatement (line' :: after) := by
    rw [afterStatement, afterStatement, hends]
  simp only [List.append_assoc, List.cons_append, heq, hearlier.effectiveTexts_cons hcurrent, hafter, hsame]

/-- A script with a comment behind the text of a line, and the script that lacks the comment. No quoted
    region spans lines before the comment. The comment ends what counts of its statement, and swallows
    the lines up to the next one that ends a statement. The two scripts come to the same if it swallows
    nothing, or if the statement has a comment already and the line ends it in both or in neither. The
    first comment of a statement makes a difference, in more than blanks, if it swallows something. -/
theorem split_comment (script bare : String) (hscript : script.toList.splitOn '\n' = before ++ line :: after)
    (hbare : bare.toList.splitOn '\n' = before ++ effective line :: after)
    (hclosed : ∀ l ∈ before, ¬ isSkipped (trim l) = true → Closed (effective l))
    (h : Commented line) :
    (split script).map effectiveText =
        effectiveTexts [] (before ++ (effective line ++ [';']) :: afterStatement (line :: after)) ∧
      (SwallowsNothing line after → (split script).map effectiveText = (split bare).map effectiveText) ∧
      (InComment before → endsStatement line = endsStatement (effective line) →
        (split script).map effectiveText = (split bare).map effectiveText) ∧
      (¬ InComment before → trim (effective line) ≠ [';'] →
        (split script).map (ink ∘ effectiveText) = (split bare).map (ink ∘ effectiveText) →
          SwallowsNothing line after) := by
  obtain ⟨texts, current, hcurrent, hclean, heq⟩ := exists_underWay hclosed .nil
  rw [← List.map_map, ← List.map_map, map_effectiveText_split, map_effectiveText_split, hscript, hbare]
  refine ⟨?_, fun hswallows => ?_, fun hin hends => hin.effectiveTexts_eq hclosed hends,
    fun hin hsemicolon hink => ?_⟩
  · rw [heq, heq, h.effectiveTexts_terminated hcurrent]
  · rw [heq, heq, h.effectiveTexts_effective hswallows hcurrent]
  · rw [heq, heq, List.map_append, List.map_append] at hink
    exact h.swallowsNothing hcurrent (hclean hin (.inl rfl)) hsemicolon (List.append_cancel_left hink)

/-- A comment behind the last line of a statement, whose semicolon has a line of its own. -/
theorem split_comment_last : (split "SELECT A\nFROM T -- all\n;\nDROP U;").map effectiveText =
    (split "SELECT A\nFROM T \n;\nDROP U;").map effectiveText := by
  have hclosed : ∀ l ∈ ["SELECT A".toList], ¬ isSkipped (trim l) = true → Closed (effective l) := by
    rintro l hl - r
    rw [List.mem_singleton.mp hl, show Place.after '"' .outside _ = .outside by decide]
    exact nofun
  have hswallows : SwallowsNothing "FROM T -- all".toList [";".toList, "DROP U;".toList] :=
    ⟨by decide, by unfold OnlyEnds; decide⟩
  exact (split_comment _ _ (by decide) (by decide) hclosed ⟨by decide, by decide⟩).2.1 hswallows

/-- A comment behind the first line of a statement swallows the other one. -/
theorem split_comment_first :
    "SELECT A -- first\nFROM T;".toList.splitOn '\n' = ["SELECT A -- first".toList, "FROM T;".toList] ∧
      "SELECT A \nFROM T;".toList.splitOn '\n' =
        [effective "SELECT A -- first".toList, "FROM T;".toList] ∧
      Commented "SELECT A -- first".toList ∧ Closed "FROM T;".toList ∧
      (split "SELECT A -- first\nFROM T;").map (ink ∘ effectiveText) ≠
        (split "SELECT A \nFROM T;").map (ink ∘ effectiveText) := by
  refine ⟨by decide, by decide, ⟨by decide, by decide⟩, fun r => ?_, by decide⟩
  rw [show Place.after '"' .outside _ = .outside by decide]
  exact nofun

end SchemaChange.Script
