import SchemaChange.Build.Batch
import SchemaChange.Proofs.Text.Lines
import SchemaChange.Script

/-!
# Splitting undoes joining

A statement that a script can carry is *well formed*: there is something to it, no blank surrounds it,
it is on one line and does not read as a comment. What a split gives is well formed, and a batch of
well-formed statements, written as a script, splits into these statements again.

While lines are gathered, the text under way is empty or a statement's beginning and a space
(`Pending`). A line joins it without making a comment of it: either it begins the text, and is no
comment, or the text has a beginning already. A beginning is closed under prefixes (`Begins`), and so
survives that blanks are taken from its end. What a line does to the text under way is said once (`step`).

* `split_wellFormed`: every statement of a script is well formed;
* `split_script_of_wellFormed`: splitting gives back what a batch joins;
* `split_inverts_script`: both, and that splitting again changes nothing.
-/

namespace SchemaChange.Script

open Text

variable {current line s t : List Char}

/-- The text reads as a comment. -/
def IsComment (s : List Char) : Prop :=
  "--".toList <+: s ∨ "//".toList <+: s

/-- A statement that a script can carry. -/
structure WellFormed (s : List Char) : Prop where
  nonempty : s ≠ []
  trimmed : trim s = s
  oneLine : '\n' ∉ s
  noComment : ¬ IsComment s

/-! ## Beginnings of statements -/

/-- A beginning of a statement, possibly empty. -/
structure Begins (s : List Char) : Prop where
  noLeadingBlank : NoLeadingBlank s
  oneLine : '\n' ∉ s
  noComment : ¬ IsComment s

theorem Begins.nil : Begins [] :=
  ⟨fun _ h => absurd h (Option.not_mem_none _), List.not_mem_nil, by simp [IsComment]⟩

theorem WellFormed.begins (h : WellFormed s) : Begins s :=
  ⟨(trim_eq_self_iff.mp h.trimmed).1, h.oneLine, h.noComment⟩

theorem isSkipped_iff : isSkipped s = true ↔ s = [] ∨ IsComment s := by
  rw [isSkipped, Bool.or_assoc, Bool.or_eq_true, Bool.or_eq_true, List.isEmpty_iff,
    List.isPrefixOf_iff_prefix, List.isPrefixOf_iff_prefix, IsComment]

theorem IsComment.mono (ht : IsComment t) (h : t <+: s) : IsComment s :=
  ht.imp (·.trans h) (·.trans h)

/-- A text that is no comment stays none when it goes on with another character. -/
theorem not_isComment_append {c : Char} (hs : s ≠ []) (h : ¬ IsComment s) (hc : c ≠ '-')
    (hc' : c ≠ '/') : ¬ IsComment (s ++ c :: t) := by
  match s with
  | [a] => simp [IsComment, List.cons_prefix_cons, hc.symm, hc'.symm]
  | a :: b :: s => simpa [IsComment, List.cons_prefix_cons] using h

theorem Begins.mono (hs : Begins s) (h : t <+: s) : Begins t :=
  ⟨hs.noLeadingBlank.mono h, fun ht => hs.oneLine (h.subset ht),
    fun ht => hs.noComment (ht.mono h)⟩

theorem Begins.append_space (h : Begins s) (hs : s ≠ []) (ht : '\n' ∉ t) :
    Begins (s ++ ' ' :: t) where
  noLeadingBlank := h.noLeadingBlank.append hs
  oneLine hn := by
    rcases List.mem_append.mp hn with hn | hn
    · exact h.oneLine hn
    · exact ht ((List.mem_cons.mp hn).resolve_left (by decide))
  noComment := not_isComment_append hs h.noComment (by decide) (by decide)

/-- A line that is not skipped begins a statement. -/
theorem Begins.of_line (hline : '\n' ∉ line) (h : ¬ isSkipped (trim line) = true) :
    Begins (trim line) :=
  ⟨trim_noLeadingBlank, fun hn => hline (mem_of_mem_trim hn),
    fun hcomment => h (isSkipped_iff.mpr (.inr hcomment))⟩

/-- What is left of a beginning, if anything is, is well formed. -/
theorem Begins.statementOf (h : Begins t) : ∀ s ∈ statementOf t, WellFormed s := by
  intro s hs
  rw [Script.statementOf] at hs
  split at hs
  · exact absurd hs List.not_mem_nil
  · rename_i hne
    rw [List.mem_singleton.mp hs]
    have hbegins := h.mono h.noLeadingBlank.isPrefix_trim
    exact ⟨fun hnil => hne (List.isEmpty_iff.mpr hnil), trim_trim, hbegins.oneLine,
      hbegins.noComment⟩

/-- The text of a statement that is under way: nothing yet, or a beginning and a space. -/
def Pending (current : List Char) : Prop :=
  current = [] ∨ ∃ s, s ≠ [] ∧ Begins s ∧ current = s ++ [' ']

/-- A line joins the text under way. -/
theorem Pending.begins (h : Pending current) (ht : Begins t) : Begins (current ++ t) := by
  rcases h with rfl | ⟨s, hne, hs, rfl⟩
  · exact ht
  · rw [List.append_assoc]
    exact hs.append_space hne ht.oneLine

theorem Pending.next (h : Pending current) (ht : Begins t) (hne : t ≠ []) :
    Pending (current ++ t ++ [' ']) :=
  .inr ⟨current ++ t, List.append_ne_nil_of_right_ne_nil current hne, h.begins ht, rfl⟩

/-! ## Lines -/

/-- Whether a line ends the statement under way. -/
def endsStatement (line : List Char) : Bool :=
  !isSkipped (trim line) && (trim line).getLast? == some ';'

theorem eq_append_of_stripLast? {c : Char} (h : stripLast? c s = some t) : s = t ++ [c] := by
  rw [stripLast?] at h
  split at h
  · rename_i hlast
    obtain ⟨r, rfl⟩ := List.getLast?_eq_some_iff.mp hlast
    rw [← Option.some.inj h, List.dropLast_concat]
  · exact absurd h (Option.some_ne_none t).symm

/-- The line that ends a statement. -/
theorem splitLines_of_ends (h : ¬ isSkipped (trim line) = true) (hbody : trim line = s ++ [';'])
    (current : List Char) (lines : List (List Char)) :
    splitLines current (line :: lines) = statementOf (current ++ s) ++ splitLines [] lines := by
  have hstrip : stripLast? ';' (trim line) = some s := by
    rw [hbody, stripLast?, if_pos List.getLast?_concat, List.dropLast_concat]
  rw [splitLines, if_neg h, hstrip]

/-- What a line does to the statement under way. -/
inductive Step (line : List Char) : Prop
  | skipped (h : isSkipped (trim line) = true) (hends : endsStatement line = false)
      (step : ∀ current lines, splitLines current (line :: lines) = splitLines current lines)
  | ends {body : List Char} (h : ¬ isSkipped (trim line) = true) (hbody : trim line = body ++ [';'])
      (hends : endsStatement line = true)
      (step : ∀ current lines, splitLines current (line :: lines) =
        statementOf (current ++ body) ++ splitLines [] lines)
  | continues (h : ¬ isSkipped (trim line) = true) (hends : endsStatement line = false)
      (step : ∀ current lines, splitLines current (line :: lines) =
        splitLines (current ++ trim line ++ [' ']) lines)

theorem step (line : List Char) : Step line := by
  by_cases hskipped : isSkipped (trim line) = true
  · refine .skipped hskipped ?_ fun _ _ => if_pos hskipped
    rw [endsStatement, hskipped]
    rfl
  · by_cases hlast : (trim line).getLast? = some ';'
    · have hstrip : stripLast? ';' (trim line) = some (trim line).dropLast := if_pos hlast
      have hbody := eq_append_of_stripLast? hstrip
      refine .ends hskipped hbody ?_ (splitLines_of_ends hskipped hbody)
      rw [endsStatement, hlast, Bool.eq_false_iff.mpr hskipped]
      rfl
    · refine .continues hskipped ?_ fun _ _ => ?_
      · rw [endsStatement, beq_eq_false_iff_ne.mpr hlast, Bool.and_false]
      · rw [splitLines, if_neg hskipped, stripLast?, if_neg hlast]

/-! ## What a split gives -/

/-- From a text under way, every line keeps to well-formed statements. -/
theorem splitLines_wellFormed {lines : List (List Char)} (hlines : ∀ line ∈ lines, '\n' ∉ line)
    (hcurrent : Pending current) : ∀ s ∈ splitLines current lines, WellFormed s := by
  induction lines generalizing current with
  | nil =>
    have hbegins := hcurrent.begins .nil
    rw [List.append_nil] at hbegins
    exact hbegins.statementOf
  | cons line lines ih =>
    have hrest := fun l hl => hlines l (List.mem_cons_of_mem line hl)
    intro s hs
    cases step line with
    | skipped _ _ step =>
      rw [step] at hs
      exact ih hrest hcurrent s hs
    | @ends body hskipped hbody _ step =>
      have hline := Begins.of_line (hlines line List.mem_cons_self) hskipped
      have hprefix : body <+: trim line := ⟨[';'], hbody.symm⟩
      rw [step] at hs
      rcases List.mem_append.mp hs with hs | hs
      · exact (hcurrent.begins (hline.mono hprefix)).statementOf s hs
      · exact ih hrest (.inl rfl) s hs
    | continues hskipped _ step =>
      have hline := Begins.of_line (hlines line List.mem_cons_self) hskipped
      rw [step] at hs
      refine ih hrest (hcurrent.next hline fun hnil => ?_) s hs
      exact hskipped (isSkipped_iff.mpr (.inl hnil))

/-- Every statement of a script is well formed. -/
theorem split_wellFormed {script s : String} (h : s ∈ split script) : WellFormed s.toList := by
  obtain ⟨t, ht, rfl⟩ := List.mem_map.mp h
  rw [String.toList_ofList]
  exact splitLines_wellFormed (fun _ => not_mem_of_mem_splitOn) (.inl rfl) t ht

/-! ## What a batch joins -/

theorem statementOf_of_wellFormed (h : WellFormed s) : statementOf s = [s] := by
  rw [statementOf, h.trimmed, if_neg (by rw [List.isEmpty_iff]; exact h.nonempty)]

/-- A semicolon behind a text is kept with it. -/
theorem trim_append_semicolon (h : NoLeadingBlank s) (hne : s ≠ []) : trim (s ++ [';']) = s ++ [';'] := by
  refine trim_eq_self_iff.mpr ⟨h.append hne, fun c hc => ?_⟩
  rw [List.getLast?_concat] at hc
  rw [← Option.some.inj hc]
  rfl

theorem not_isSkipped_append_semicolon (hne : s ≠ []) (h : ¬ IsComment s) :
    ¬ isSkipped (s ++ [';']) = true := fun hs => by
  rcases isSkipped_iff.mp hs with hnil | hcomment
  · exact List.append_ne_nil_of_left_ne_nil hne _ hnil
  · exact not_isComment_append hne h (by decide) (by decide) hcomment

/-- A well-formed statement and a semicolon, on one line, are that statement. -/
theorem splitLines_cons (h : WellFormed s) (lines : List (List Char)) :
    splitLines [] ((s ++ [';']) :: lines) = s :: splitLines [] lines := by
  have htrim := trim_append_semicolon h.begins.noLeadingBlank h.nonempty
  have hskipped := not_isSkipped_append_semicolon h.nonempty h.noComment
  rw [splitLines_of_ends (by rwa [htrim]) htrim, List.nil_append, statementOf_of_wellFormed h]
  rfl

/-- The script of a batch, a statement at a time. -/
theorem script_cons (s t : String) (l : List String) :
    (Batch.mk (s :: t :: l)).script = s ++ ";\n" ++ (Batch.mk (t :: l)).script := by
  simp [Batch.script, Batch.isEmpty, String.intercalate_cons_cons, String.append_assoc]

theorem splitLines_script {l : List String} (h : ∀ s ∈ l, WellFormed s.toList) :
    splitLines [] ((Batch.mk l).script.toList.splitOn '\n') = l.map String.toList := by
  induction l with
  | nil => rfl
  | cons s l ih =>
    have hs := h s List.mem_cons_self
    have hline : '\n' ∉ s.toList ++ [';'] := fun hn =>
      (List.mem_append.mp hn).elim hs.oneLine (by decide)
    cases l with
    | nil =>
      have hscript : (Batch.mk [s]).script.toList = s.toList ++ [';'] := by
        simp [Batch.script, Batch.isEmpty]
      rw [hscript, List.splitOn_eq_singleton hline, splitLines_cons hs]
      rfl
    | cons t l =>
      have hscript : (Batch.mk (s :: t :: l)).script.toList
          = s.toList ++ [';'] ++ '\n' :: (Batch.mk (t :: l)).script.toList := by
        simp [script_cons]
      rw [hscript, List.splitOn_append_cons_self_of_not_mem hline, splitLines_cons hs,
        ih fun u hu => h u (List.mem_cons_of_mem s hu)]
      rfl

/-- Splitting the script of a batch gives back its statements. -/
theorem split_script_of_wellFormed {b : Batch} (h : ∀ s ∈ b.statements, WellFormed s.toList) :
    split b.script = b.statements := by
  rw [split, splitLines_script h, List.map_map]
  exact List.map_id'' (fun s => String.ofList_toList) b.statements

/-- Splitting undoes joining: the statements of a script are well formed, the script of a batch of
    well-formed statements splits into these statements, and so a split written as a script splits into
    the same statements again. -/
theorem split_inverts_script :
    (∀ script : String, ∀ s ∈ split script, WellFormed s.toList) ∧
    (∀ b : Batch, (∀ s ∈ b.statements, WellFormed s.toList) → split b.script = b.statements) ∧
    ∀ script : String, split (Batch.mk (split script)).script = split script :=
  ⟨fun _ _ => split_wellFormed, fun _ => split_script_of_wellFormed,
    fun _ => split_script_of_wellFormed fun _ => split_wellFormed⟩

/-- A statement that ends in a semicolon, one with a carriage return inside and one that a second dash
    would make a comment. -/
theorem split_inverts_script_terminated :
    (∀ s ∈ ["a;", "b\rc", "-"], WellFormed s.toList) ∧
    split (Batch.mk ["a;", "b\rc", "-"]).script = ["a;", "b\rc", "-"] := by
  have h : ∀ s ∈ ["a;", "b\rc", "-"], WellFormed s.toList := by
    intro s hs
    simp only [List.mem_cons, List.not_mem_nil, or_false] at hs
    rcases hs with rfl | rfl | rfl <;> exact ⟨by decide, by decide, by decide, by simp [IsComment]⟩
  exact ⟨h, split_inverts_script.2.1 ⟨_⟩ h⟩

end SchemaChange.Script
