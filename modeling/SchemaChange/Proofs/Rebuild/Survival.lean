import SchemaChange.Proofs.Course.Refusal
import SchemaChange.Proofs.Rebuild.Database
import SchemaChange.Proofs.Rebuild.Stages

/-!
# Data survive a rebuild

Wherever a rebuild stops, every row still holds its value, in the column itself or in the temporary
column (`Kept`). Each statement leads from one stage of the rebuild to the next (`Leads`) or, where it
fails, leaves the table in the stage before.
-/

namespace SchemaChange

variable {σ : Type}

/-! ## From stage to stage -/

/-- Where `P` holds of the content before an operation, `K` holds of it after the operation whatever
    happens, and `Q` too if no statement failed. -/
def Leads (c : Connection σ) (content : σ → Content) (K P : Content → Prop) (o : Operation Outcome)
    (Q : Content → Prop) : Prop :=
  ∀ ⦃l xs r l' s s'⦄, o.Course l xs r l' → c.Answers s xs s' → P (content s) →
    K (content s') ∧ ∀ a, r = .ok a → a ≠ .failureIgnored → Q (content s')

variable {c : Connection σ} {content : σ → Content} {col : String → String} {w : Rebuilding}
  {f : Rebuilding.Facts} {change : Change} {sql : String} {ignoring : Bool}
  {K P Q R : Content → Prop} {o o' : Operation Outcome}

namespace Leads

theorem pure (outcome : Outcome) (hPK : ∀ d, P d → K d) :
    Leads c content K P (pure outcome) P := by
  intro l xs r l' s s' hc ha hP
  obtain ⟨rfl, _, _⟩ := Operation.course_pure_iff.1 hc
  obtain rfl := Connection.answers_nil_iff.1 ha
  exact ⟨hPK _ hP, fun _ _ _ => hP⟩

theorem conseq {P' Q' : Content → Prop} (h : Leads c content K P o Q) (hP : ∀ d, P' d → P d)
    (hQ : ∀ d, Q d → Q' d) : Leads c content K P' o Q' := by
  intro l xs r l' s s' hc ha hP'
  obtain ⟨hK, hnext⟩ := h hc ha (hP _ hP')
  exact ⟨hK, fun a hr hne => hQ _ (hnext a hr hne)⟩

/-- An operation that goes on only after statements that did not fail. -/
theorem next (h : Leads c content K P o Q) (h' : Leads c content K Q o' R) :
    Leads c content K P
      (o >>= fun a => if a = .failureIgnored then Pure.pure .failureIgnored else o') R := by
  intro l xs r l' s s' hc ha hP
  rcases Operation.course_bind_iff.1 hc with ⟨a, l₁, ys, zs, ho, hnext, rfl⟩ | ⟨e, ho, rfl⟩
  · obtain ⟨s₁, hys, hzs⟩ := Connection.answers_append_iff.1 ha
    obtain ⟨hK, hQ⟩ := h ho hys hP
    split at hnext
    · obtain ⟨rfl, rfl, _⟩ := Operation.course_pure_iff.1 hnext
      obtain rfl := Connection.answers_nil_iff.1 hzs
      exact ⟨hK, fun b hb hne => absurd (Except.ok.inj hb).symm hne⟩
    · exact h' hnext hzs (hQ a rfl ‹_›)
  · exact ⟨(h ho ha hP).1, nofun⟩

/-- One statement. -/
theorem run (hserves : Serves c content col w f) (hchange : change ∈ w.changes f)
    (hsql : change.text f.builder w.table = .ok sql) (hPK : ∀ d, P d → K d)
    (hPQ : ∀ d d', P d → change.effect? col [] d = some d' → Q d') (hQK : ∀ d, Q d → K d) :
    Leads c content K P (Editor.run sql ignoring) Q := by
  intro l xs r l' s s' hc ha hP
  rcases hserves.run_content hchange hsql hc ha with ⟨_, heffect⟩ | ⟨hstop, hsame⟩
  · have hQ := hPQ _ _ hP heffect
    exact ⟨hQK _ hQ, fun _ _ _ => hQ⟩
  · rw [hsame]
    exact ⟨hPK _ hP, fun a ha hne => absurd (hstop a ha) hne⟩

/-- The restorations, whichever of them fail. -/
theorem restore (hserves : Serves c content col w f) (outcome : Outcome) {sqls : List String}
    (hsqls : ∀ sql ∈ sqls, ∃ change ∈ w.restorations, change.text f.builder w.table = .ok sql) :
    Leads c content K K (Editor.restore outcome sqls) K := by
  induction sqls generalizing outcome with
  | nil => exact .pure outcome fun _ h => h
  | cons sql sqls ih =>
    intro l xs r l' s s' hc ha hK
    obtain ⟨change, hchange, hsql⟩ := hsqls sql List.mem_cons_self
    have hmem := w.restoration_mem f hchange
    have hsame : ∀ {l xs r l' s'}, (Editor.run sql true).Course l xs r l' → c.Answers s xs s' →
        content s' = content s := by
      intro l xs r l' s' hc ha
      rcases hserves.run_content hmem hsql hc ha with ⟨_, heffect⟩ | ⟨_, hsame⟩
      · exact effect?_of_restoration hchange heffect
      · exact hsame
    rcases Operation.course_bind_iff.1 hc with ⟨a, l₁, ys, zs, ho, hnext, rfl⟩ | ⟨e, ho, rfl⟩
    · obtain ⟨s₁, hys, hzs⟩ := Connection.answers_append_iff.1 ha
      have hK₁ : K (content s₁) := by rwa [hsame ho hys]
      have hrest := fun outcome => ih outcome fun sql h => hsqls sql (List.mem_cons_of_mem _ h)
      cases a with
      | failureIgnored => exact hrest _ hnext hzs hK₁
      | applied | skipped | appliedWithoutAttributes => exact hrest _ hnext hzs hK₁
    · rw [hsame ho ha]
      exact ⟨hK, nofun⟩

end Leads

/-! ## The copy -/

namespace Leads

/-- Rows are written back, up to the first one that fails: `J` holds of those that are done. -/
theorem writeRows (hserves : Serves c content col w f) {update : String} {keyless : Bool}
    (hupdate : (w.transfer f).text f.builder w.table = .ok update) {J : List Row → Content → Prop}
    (hJK : ∀ done d, J done d → K d) {rows : List Row}
    (hskipped : ∀ row ∈ rows, Editor.writeBack? keyless row = none →
      ∀ done d, J done d → J (done ++ [row]) d)
    (hwritten : ∀ row ∈ rows, ∀ params, Editor.writeBack? keyless row = some params →
      ∀ done d d', J done d → (w.transfer f).effect? col params d = some d' → J (done ++ [row]) d')
    (done : List Row) :
    Leads c content K (J done) (Editor.writeRows update keyless ignoring rows)
      (J (done ++ rows)) := by
  have hchange := w.transfer_mem f
  -- By induction on the rows that are left; a row that fails leaves `J` as it was and is the last.
  induction rows generalizing done with
  | nil =>
    rw [List.append_nil]
    exact .pure .applied (hJK done)
  | cons row rows ih =>
    have hrest := ih (fun row h => hskipped row (List.mem_cons_of_mem _ h))
      (fun row h => hwritten row (List.mem_cons_of_mem _ h)) (done ++ [row])
    rw [← List.append_cons] at hrest
    cases hrow : Editor.writeBack? keyless row with
    | none =>
      rw [Editor.writeRows_cons_none _ _ _ hrow]
      exact fun _ _ _ _ _ _ hc ha hJ =>
        hrest hc ha (hskipped row List.mem_cons_self hrow done _ hJ)
    | some params =>
      rw [Editor.writeRows_cons_some _ _ _ hrow]
      intro l xs r l' s s' hc ha hJ
      rcases Operation.course_bind_iff.1 hc with ⟨a, l₁, ys, zs, ho, hnext, rfl⟩ | ⟨e, ho, rfl⟩
      · obtain ⟨s₁, hys, hzs⟩ := Connection.answers_append_iff.1 ha
        rcases hserves.execute_content hchange hupdate ho hys with
          ⟨⟨n, hn⟩, heffect⟩ | ⟨hnone, hsame⟩
        · cases hn
          exact hrest hnext hzs (hwritten row List.mem_cons_self params hrow done _ _ hJ heffect)
        · cases hnone a rfl
          obtain ⟨rfl, rfl, _⟩ := Operation.course_pure_iff.1 hnext
          obtain rfl := Connection.answers_nil_iff.1 hzs
          rw [hsame]
          exact ⟨hJK done _ hJ, fun b hb hne => absurd (Except.ok.inj hb).symm hne⟩
      · rcases hserves.execute_content hchange hupdate ho ha with ⟨⟨n, hn⟩, _⟩ | ⟨_, hsame⟩
        · cases hn
        · rw [hsame]
          exact ⟨hJK done _ hJ, nofun⟩

/-- The query of a decoding copy, and what is done with its rows. -/
theorem select (hreads : ReadsOnly c content) (hPK : ∀ d, P d → K d) {select update : String}
    {keyColumns : List String}
    (hrows : ∀ s result s', c.answer s (.query select []) = (.ok result, s') → P (content s) →
      Leads c content K P (Editor.writeRows update keyColumns.isEmpty ignoring result.rows) Q) :
    Leads c content K P (Editor.applyCopy (.decode select update keyColumns) ignoring) Q := by
  intro l xs r l' s s' hc ha hP
  obtain ⟨reply, ys, rfl, hnext⟩ := Operation.course_attempt_bind_iff.1 hc
  obtain ⟨s₁, hanswer, hs⟩ := Connection.answers_cons_iff.1 ha
  have hsame : content s₁ = content s := by
    have := hreads s (.query select []) rfl
    rwa [hanswer] at this
  cases reply with
  | ok result => exact hrows s result s₁ hanswer hP hnext hs (hsame ▸ hP)
  | error e =>
    dsimp only at hnext
    split at hnext
    · obtain ⟨rfl, rfl, _⟩ := Operation.course_pure_iff.1 hnext
      obtain rfl := Connection.answers_nil_iff.1 hs
      rw [hsame]
      exact ⟨hPK _ hP, fun b hb hne => absurd (Except.ok.inj hb).symm hne⟩
    · obtain ⟨rfl, rfl, _⟩ := Operation.course_throw_iff.1 hnext
      obtain rfl := Connection.answers_nil_iff.1 hs
      rw [hsame]
      exact ⟨hPK _ hP, nofun⟩

variable {d₀ : Content} {decodes : Prop} {rows : List Row}

/-- Rows of the selection are written back. -/
theorem writeSelected (hserves : Serves c content col w f) (hdecodes : w.decodes f = true)
    {update : String} (hupdate : (w.transfer f).text f.builder w.table = .ok update)
    (hkey : w.SinglesOut f col d₀) (hrows : ∀ row ∈ rows,
      row.values ∈ d₀.selection col w.target.name f.keyColumns) :
    Leads c content (Kept (col w.target.name) (col w.temporary) decodes d₀)
      (Filled (col w.temporary) (Written w f col []) d₀)
      (Editor.writeRows update f.keyColumns.isEmpty ignoring rows)
      (Filled (col w.temporary) (Written w f col (rows.map fun row => f.bound row.values)) d₀) := by
  have htransfer : w.transfer f = .write w.temporary (w.conditions f) := if_pos hdecodes
  refine writeRows hserves hupdate (fun done d h => h.kept) ?_ ?_ []
    (J := fun done => Filled (col w.temporary)
      (Written w f col (done.map fun row => f.bound row.values)) d₀)
  · intro row hrow hnone
    obtain ⟨row₀, _, hsource, hvalues⟩ := mem_selection_iff.1 (hrows row hrow)
    rw [writeBack?_selected hsource hvalues] at hnone
    cases hnone
  · intro row hrow params hparams done d d' h heffect
    obtain ⟨row₀, hrow₀, hsource, hvalues⟩ := mem_selection_iff.1 (hrows row hrow)
    obtain rfl := Option.some.inj ((writeBack?_selected hsource hvalues).symm.trans hparams)
    rw [htransfer] at heffect
    rw [List.map_append, List.map_cons, hvalues, bound_selected]
    exact h.of_write hkey hrow₀ hsource heffect

/-- The copy fills the temporary column. -/
theorem applyCopy (hreads : ReadsOnly c content) (hserves : Serves c content col w f) {copy : Copy}
    (hcopy : w.CopyTexts f copy) (hname : col w.target.name ∈ d₀.columns)
    (hkey : w.decodes f = true → w.SinglesOut f col d₀) :
    Leads c content (Kept (col w.target.name) (col w.temporary) decodes d₀)
      (Filled (col w.temporary) (fun _ v => v = .null) d₀) (Editor.applyCopy copy ignoring)
      (Filled (col w.temporary)
        (fun row v => Stands (w.decodes f = true) (row (col w.target.name)) v) d₀) := by
  cases copy with
  | assign sql =>
    have htransfer : w.transfer f = .assign w.target.name w.temporary :=
      if_neg (ne_true_of_eq_false hcopy.1)
    refine .run hserves (w.transfer_mem f) hcopy.2 (fun _ h => h.kept) (fun d d' h heffect => ?_)
      fun _ h => h.kept
    rw [htransfer] at heffect
    exact (h.of_assign hname heffect).mono fun row _ v hv => .inl hv
  | decode select update keyColumns =>
    obtain ⟨hdecodes, rfl, hselect, hupdate⟩ := hcopy
    have hkey := hkey hdecodes
    refine .select hreads (fun _ h => h.kept) fun s result s' hanswer hP => ?_
    have hselected := hserves.selected select hselect s result s' hanswer
    rw [hP.selection_eq hname hkey.keyColumns] at hselected
    have hrows : ∀ row ∈ result.rows, row.values ∈ d₀.selection col w.target.name f.keyColumns :=
      fun row hrow => hselected.mem_iff.1 (List.mem_map_of_mem hrow)
    refine (writeSelected hserves hdecodes hupdate hkey hrows).conseq (fun d h => ?_) fun d h => ?_
    · exact h.mono fun _ _ v hv => ⟨.inl hv, fun h => absurd h List.not_mem_nil⟩
    · -- A row that has a source was selected, so its key has been written.
      refine h.of_written (fun row hrow hsource => ?_) hdecodes
      have hvalues := hselected.mem_iff.2 (mem_selection_iff.2 ⟨row, hrow, hsource, rfl⟩)
      obtain ⟨selected, hmem, hvalues⟩ := List.mem_map.1 hvalues
      refine List.mem_map.2 ⟨selected, hmem, ?_⟩
      rw [hvalues, bound_selected]

end Leads

/-! ## The whole rebuild -/

namespace Leads

variable {plan : Rebuild} {d₀ : Content} {decodes : Prop} (hserves : Serves c content col w f)
  (htexts : w.Texts f plan)

include hserves htexts

theorem addTemporary :
    Leads c content (Kept (col w.target.name) (col w.temporary) decodes d₀) (· = d₀)
      (Editor.run plan.addTemporary ignoring)
      (Filled (col w.temporary) (fun _ v => v = .null) d₀) := by
  refine .run hserves (w.addition_mem f) htexts.addTemporary (fun d h => ?_) (fun d d' h ht => ?_)
    fun d h => h.kept
  · rw [h]
    exact .refl
  · exact filled_of_addition (h ▸ ht)

section

variable (hname : col w.target.name ∈ d₀.columns)

include hname

theorem swap :
    Leads c content (Kept (col w.target.name) (col w.temporary) decodes d₀)
      (Filled (col w.temporary) (fun row v => Stands decodes (row (col w.target.name)) v) d₀)
      (Editor.runAll ignoring [plan.dropOld, plan.rename])
      (Kept (col w.target.name) (col w.temporary) decodes d₀) := by
  rw [Editor.runAll_cons, Editor.runAll_cons]
  exact (run hserves (w.removal_mem f) htexts.dropOld (fun _ h => h.kept)
    (fun _ _ h ht => h.removed hname ht) fun _ h => h.kept).next <|
      (run hserves (w.handover_mem f) htexts.rename (fun _ h => h.kept)
        (fun _ _ h ht => h.renamed ht) fun _ h => h).next (.pure _ fun _ h => h)

/-- A whole rebuild. -/
theorem applyRebuild (hreads : ReadsOnly c content)
    (hkey : w.decodes f = true → w.SinglesOut f col d₀) :
    Leads c content (Kept (col w.target.name) (col w.temporary) (w.decodes f = true) d₀) (· = d₀)
      (Editor.applyRebuild plan ignoring)
      (Kept (col w.target.name) (col w.temporary) (w.decodes f = true) d₀) :=
  (addTemporary hserves htexts).next <|
    (applyCopy hreads hserves htexts.copy hname hkey).next <|
      (swap hserves htexts hname).next (restore hserves .applied htexts.restorations)

end

/-- What the addition of the temporary column brings about and no statement undoes. -/
theorem applyRebuild_of_invariant {I : Content → Prop} (hreads : ReadsOnly c content)
    (hPK : ∀ d, P d → K d) (hIK : ∀ d, I d → K d)
    (hadded : ∀ d d', P d → w.addition.effect? col [] d = some d' → I d')
    (hkept : ∀ change ∈ w.changes f, ∀ params d d',
      I d → change.effect? col params d = some d' → I d') :
    Leads c content K P (Editor.applyRebuild plan ignoring) K := by
  have hrun : ∀ {sql change}, change ∈ w.changes f → change.text f.builder w.table = .ok sql →
      Leads c content K I (Editor.run sql ignoring) I := fun hchange hsql =>
    run hserves hchange hsql hIK (hkept _ hchange []) hIK
  have hcopy : Leads c content K I (Editor.applyCopy plan.copy ignoring) I := by
    have htext := htexts.copy
    cases hplan : plan.copy with
    | assign sql =>
      rw [hplan] at htext
      exact hrun (w.transfer_mem f) htext.2
    | decode select update keyColumns =>
      rw [hplan] at htext
      exact .select hreads hIK fun _ _ _ _ _ => writeRows hserves htext.2.2.2 (fun _ => hIK)
        (fun _ _ _ _ _ h => h) (fun _ _ params _ _ => hkept _ (w.transfer_mem f) params) []
  have hswap : Leads c content K I (Editor.runAll ignoring [plan.dropOld, plan.rename]) I := by
    rw [Editor.runAll_cons, Editor.runAll_cons]
    exact (hrun (w.removal_mem f) htexts.dropOld).next
      ((hrun (w.handover_mem f) htexts.rename).next (.pure _ hIK))
  exact (run hserves (w.addition_mem f) htexts.addTemporary hPK hadded hIK).next <| hcopy.next <|
    (hswap.conseq (fun _ h => h) hIK).next (restore hserves .applied htexts.restorations)

/-- A rebuild of a column that is not there: what is not in the temporary column does not change. -/
theorem applyRebuild_of_absent (hreads : ReadsOnly c content)
    (hname : col w.target.name ∉ d₀.columns) :
    Leads c content (Kept (col w.target.name) (col w.temporary) decodes d₀) (· = d₀)
      (Editor.applyRebuild plan ignoring)
      (Kept (col w.target.name) (col w.temporary) decodes d₀) := by
  refine applyRebuild_of_invariant (I := Framed (col w.target.name) (col w.temporary) d₀) hserves
    htexts hreads (fun d h => h ▸ .refl) (fun d h => h.kept hname) ?_
    fun change hchange params d d' h ht => h.of_effect? hchange ht
  rintro _ d' rfl ht
  exact (Framed.refl (Option.ite_none_left_eq_some.1 ht).1).of_effect? (w.addition_mem f) ht

end Leads

/-! ## Edits -/

/-- The columns are a key of the table. -/
structure Content.HasKey (d : Content) (col : String → String) (keyColumns : List String) : Prop where
  columns : ∀ c ∈ keyColumns, col c ∈ d.columns
  not_null : ∀ row ∈ d.rows, .null ∉ Change.key col keyColumns row
  distinct : (d.rows.map (Change.key col keyColumns)).Nodup

/-- A key singles out rows, and without one the source does. -/
theorem Content.HasKey.singlesOut {d : Content} (hname : col w.target.name ∈ d.columns)
    (hkey : f.keyColumns ≠ [] → d.HasKey col f.keyColumns) : w.SinglesOut f col d := by
  by_cases hempty : f.keyColumns = []
  · have hconditions : w.conditions f = [w.target.name] := by rw [Rebuilding.conditions, hempty]; rfl
    refine ⟨?_, ?_, ?_⟩ <;> rw [hconditions]
    · simpa using hname
    · exact fun row _ row₂ _ h => (List.cons.inj h).1
    · exact fun row _ hsource h => hsource (List.mem_singleton.1 h).symm
  · have hkey := hkey hempty
    have hconditions : w.conditions f = f.keyColumns := by simp [Rebuilding.conditions, hempty]
    refine ⟨?_, ?_, ?_⟩ <;> rw [hconditions]
    · exact hkey.columns
    · intro row hrow row₂ hrow₂ h
      rw [List.inj_on_of_nodup_map hkey.distinct hrow hrow₂ h]
    · exact fun row hrow _ => hkey.not_null row hrow

namespace Editor

variable (e : Editor) (table : String) (column : ColumnSpec)

/-- Finds out what has to be known to alter a column by a rebuild. -/
def alterationFacts : Operation Rebuilding.Facts := do
  let builder ← e.inspector.builder
  Operation.built column.validate
  let current ← e.inspector.columnSqlType table column.name
  let keyColumns ← e.inspector.primaryKeyColumns table
  return { builder, current, keyColumns }

/-- Finds out what has to be known to make a text column one without bound. -/
def detourFacts : Operation Rebuilding.Facts := do
  let builder ← e.inspector.builder
  return { builder, current := .varchar, keyColumns := [] }

end Editor

/-- The rebuild that an edit comes to, with how it finds out what it has to know. -/
def Edit.rebuilding? (e : Editor) : Edit → Option (Rebuilding × Operation Rebuilding.Facts)
  | alterColumn table column =>
    if e.dialect.changesColumnTypes then none
    else some (⟨table, column, temporarySuffix⟩, e.alterationFacts table column)
  | changeColumnType table current column =>
    if e.config.databaseType = .oracle ∧ current = .string ∧ column.type = .charArray then
      some (⟨table, column, detourSuffix⟩, e.detourFacts)
    else if e.dialect.changesColumnTypes then none
    else some (⟨table, column, temporarySuffix⟩, e.alterationFacts table column)
  | _ => none

/-- Finds out, makes the plan and carries it out. -/
def Rebuilding.perform (w : Rebuilding) (find : Operation Facts) (ignoring : Bool) :
    Operation Outcome := do
  let f ← find
  let plan ← Operation.built (w.plan f)
  Editor.applyRebuild plan ignoring

theorem Builder.alterColumn_rebuild {b : Builder} (h : b.dialect.changesColumnTypes = false)
    (w : Rebuilding) (hw : w.suffix = temporarySuffix) (current : SqlType) (keyColumns : List String)
    (ignoring : Bool) :
    (Operation.built (b.alterColumn w.table w.target current keyColumns) >>= fun change =>
        Editor.applyChange change ignoring) =
      Operation.built (w.plan ⟨b, current, keyColumns⟩) >>= fun plan =>
        Editor.applyRebuild plan ignoring := by
  unfold alterColumn Rebuilding.plan
  rw [h, hw]
  dsimp only [Bool.false_eq_true, if_false]
  cases b.rebuildColumn w.table w.target current temporarySuffix keyColumns <;> rfl

/-- Where types are not changed in place, to alter a column is to rebuild it. -/
theorem Editor.alterColumn_eq (e : Editor) (table : String) (column : ColumnSpec) (ignoring : Bool)
    (h : e.dialect.changesColumnTypes = false) :
    e.alterColumn table column ignoring =
      Rebuilding.perform ⟨table, column, temporarySuffix⟩ (e.alterationFacts table column)
        ignoring := by
  unfold alterColumn planChange Rebuilding.perform alterationFacts Inspector.builder
  simp only [h, bind_assoc, pure_bind, Bool.false_eq_true, if_false]
  refine bind_congr fun rule => bind_congr fun _ => bind_congr fun current => bind_congr fun keys => ?_
  exact Builder.alterColumn_rebuild h ⟨table, column, temporarySuffix⟩ rfl current keys ignoring

/-- An edit that comes to a rebuild carries it out: nothing tells the two apart. -/
theorem Edit.perform_rebuilding {e : Editor} {edit : Edit} {find : Operation Rebuilding.Facts}
    (h : edit.rebuilding? e = some (w, find)) (ignoring : Bool) {γ : Type}
    (observe : {α : Type} → Operation α → γ) :
    observe (edit.perform e ignoring) = observe (w.perform find ignoring) := by
  cases edit with
  | alterColumn table column =>
    obtain ⟨hdialect, ⟨⟩⟩ := Option.ite_none_left_eq_some.1 h
    have heq := e.alterColumn_eq table column ignoring (eq_false_of_ne_true hdialect)
    exact congrArg (fun o : Operation Outcome => observe o) heq
  | changeColumnType table current column =>
    refine congrArg (fun o : Operation Outcome => observe o) ?_
    unfold rebuilding? at h
    unfold perform Editor.changeColumnType
    dsimp only at h ⊢
    split at h
    · cases h
      rw [if_pos ‹_›]
      unfold Editor.build Rebuilding.perform Editor.detourFacts
      simp only [bind_assoc, pure_bind]
      rfl
    · obtain ⟨hdialect, ⟨⟩⟩ := Option.ite_none_left_eq_some.1 h
      rw [if_neg ‹_›]
      exact e.alterColumn_eq table column ignoring (eq_false_of_ne_true hdialect)
  | _ => cases h

theorem Edit.state_perform {e : Editor} {edit : Edit} {find : Operation Rebuilding.Facts}
    (h : edit.rebuilding? e = some (w, find)) (ignoring : Bool) (c : Connection σ)
    (learned : Option CaseRule) (s : σ) :
    ((edit.perform e ignoring).transcript c learned s).state =
      ((w.perform find ignoring).transcript c learned s).state :=
  Edit.perform_rebuilding h ignoring fun o => (o.transcript c learned s).state

/-- What is found out for a rebuild is looked up in the catalog. -/
theorem Edit.rebuilding?_looksUp {e : Editor} {edit : Edit} {find : Operation Rebuilding.Facts}
    (h : edit.rebuilding? e = some (w, find)) : LooksUp find := by
  have halteration : ∀ table column, LooksUp (e.alterationFacts table column) := fun table column =>
    e.inspector.builder_looksUp.bind fun _ => (LooksUp.built _).bind fun _ =>
      (e.inspector.columnSqlType_looksUp table column.name).bind fun _ =>
        (e.inspector.primaryKeyColumns_looksUp table).bind fun _ => .pure _
  cases edit with
  | alterColumn table column =>
    obtain ⟨_, ⟨⟩⟩ := Option.ite_none_left_eq_some.1 h
    exact halteration table column
  | changeColumnType table current column =>
    unfold rebuilding? at h
    dsimp only at h
    split at h
    · cases h
      exact e.inspector.builder_looksUp.bind fun _ => .pure _
    · obtain ⟨_, ⟨⟩⟩ := Option.ite_none_left_eq_some.1 h
      exact halteration table column
  | _ => cases h

theorem Edit.rebuilding?_asks {e : Editor} {edit : Edit} {find : Operation Rebuilding.Facts}
    (h : edit.rebuilding? e = some (w, find)) : find.Asks fun r => r.looksUp false = true :=
  (Edit.rebuilding?_looksUp h).asks

theorem ReadsOnly.content_eq (hreads : ReadsOnly c content) {xs : List Exchange} {s s' : σ}
    (hxs : ∀ x ∈ xs, x.request.looksUp false = true) (ha : c.Answers s xs s') :
    content s' = content s := by
  induction xs generalizing s with
  | nil => rw [Connection.answers_nil_iff.1 ha]
  | cons x xs ih =>
    obtain ⟨s₁, hanswer, ha⟩ := Connection.answers_cons_iff.1 ha
    have hsame := hreads s x.request (hxs x List.mem_cons_self)
    rw [hanswer] at hsame
    exact (ih (fun y hy => hxs y (List.mem_cons_of_mem x hy)) ha).trans hsame

/-- Data survive every rebuild, whatever fails. -/
theorem Edit.perform_keepsData (e : Editor) (edit : Edit) (ignoring : Bool) (c : Connection σ)
    (learned : Option CaseRule) (s : σ) (content : σ → Content) (col : String → String)
    (w : Rebuilding) (find : Operation Rebuilding.Facts)
    (hedit : edit.rebuilding? e = some (w, find)) (hreads : ReadsOnly c content)
    (hserves : ∀ f, (find.transcript c learned s).result.1 = .ok f → Serves c content col w f)
    (hkey : ∀ f, (find.transcript c learned s).result.1 = .ok f → f.keyColumns ≠ [] →
      (content s).HasKey col f.keyColumns) :
    Kept (col w.target.name) (col w.temporary)
      (∃ f, (find.transcript c learned s).result.1 = .ok f ∧ w.decodes f = true) (content s)
      (content ((edit.perform e ignoring).transcript c learned s).state) := by
  rw [Edit.state_perform hedit]
  have hfound := Edit.rebuilding?_asks hedit
  have hc := (w.perform find ignoring).transcript_course c learned s
  have ha := (w.perform find ignoring).transcript_answers c learned s
  generalize (w.perform find ignoring).transcript c learned s = t at hc ha ⊢
  obtain ⟨⟨r, l'⟩, xs, s'⟩ := t
  dsimp only at hc ha ⊢
  rcases Operation.course_bind_iff.1 hc with ⟨f, l₁, ys, zs, hfind, hrest, rfl⟩ | ⟨_, hfind, rfl⟩
  · obtain ⟨s₁, hys, hzs⟩ := Connection.answers_append_iff.1 ha
    have hsame := hreads.content_eq (hfound hfind) hys
    have hf : (find.transcript c learned s).result.1 = .ok f := by
      rw [hfind.transcript_eq hys]
    cases hplan : w.plan f with
    | error b =>
      -- The plan is refused, so nothing is sent.
      rw [hplan] at hrest
      rcases Operation.course_bind_iff.1 hrest with ⟨_, _, _, _, hbuilt, _⟩ | ⟨_, hbuilt, _⟩
      · cases (Operation.course_built_iff.1 hbuilt).2.1
      · obtain ⟨rfl, _⟩ := Operation.course_built_iff.1 hbuilt
        rw [Connection.answers_nil_iff.1 hzs, hsame]
        exact .refl
    | ok plan =>
      rw [hplan] at hrest
      have hrest : (Editor.applyRebuild plan ignoring).Course l₁ zs r l' := hrest
      have hleads : Leads c content (Kept (col w.target.name) (col w.temporary)
          (w.decodes f = true) (content s)) (· = content s) (Editor.applyRebuild plan ignoring)
          (Kept (col w.target.name) (col w.temporary) (w.decodes f = true) (content s)) := by
        have htexts := Rebuilding.plan_texts hplan
        by_cases hname : col w.target.name ∈ (content s).columns
        · exact .applyRebuild (hserves f hf) htexts hname hreads fun _ =>
            Content.HasKey.singlesOut hname (hkey f hf)
        · exact .applyRebuild_of_absent (hserves f hf) htexts hreads hname
      exact (hleads hrest hzs hsame).1.mono fun hdecodes => ⟨f, hf, hdecodes⟩
  · -- A look-up failed, so nothing is sent either.
    rw [hreads.content_eq (hfound hfind) ha]
    exact .refl

/-! ## A column of documents -/

namespace Documents

/-- The table: some documents in UTF-8, one that is none, one missing. -/
def table : Content where
  columns := ["ID", "BODY"]
  rows := [row 1 (.bytes [72, 105]), row 2 (.bytes [255]), row 3 .null, row 4 (.bytes [72, 105])]
where
  row (id : Int32) (body : Value) : Cells := fun c => if c = "ID" then .int32 id else body

/-- The column is to hold text. -/
def rebuilding : Rebuilding :=
  ⟨"DOCUMENTS", { name := "BODY", type := .clob }, temporarySuffix⟩

/-- The column is binary, and the table has a key. -/
def facts : Rebuilding.Facts where
  builder := { dialect := .generic, options := { case? := some .verbatim } }
  current := .blob
  keyColumns := ["ID"]

/-- An editor that takes names as they are. -/
def editor : Editor where
  inspector := ⟨⟨"driver", "product", true⟩, .generic, facts.builder.options⟩
  config := { driver := "driver", url := "url" }

/-- What each statement of the rebuild changes. -/
def statements : Dictionary Change :=
  [("ALTER TABLE DOCUMENTS ADD COLUMN BODY_TMP CLOB", rebuilding.addition),
    ("UPDATE DOCUMENTS SET BODY_TMP = ? WHERE ID = ?", rebuilding.transfer facts),
    ("ALTER TABLE DOCUMENTS DROP COLUMN BODY", rebuilding.removal),
    ("ALTER TABLE DOCUMENTS RENAME COLUMN BODY_TMP TO BODY", rebuilding.handover)]

/-- What the catalog says of the table. -/
def catalog : (r : Request) → r.Reply
  | .getColumns _ _ => .ok [⟨"DOCUMENTS", "BODY", 2, "BLOB", .blob, true, none, none⟩]
  | .getPrimaryKeys _ => .ok [⟨"DOCUMENTS", "ID", none, 1⟩]
  | _ => .error (.metadata "not asked for")

/-- The database rejects that the temporary column is renamed. -/
def connection : Connection Content :=
  Content.database statements (· == "ALTER TABLE DOCUMENTS RENAME COLUMN BODY_TMP TO BODY") id "BODY"
    ["ID"] catalog

theorem text_of_mem {sql : String} {change : Change} (h : (sql, change) ∈ statements) :
    change.text facts.builder rebuilding.table = .ok sql ∧ statements.get? sql = some change := by
  simp only [statements, List.mem_cons, List.not_mem_nil, or_false, Prod.mk.injEq] at h
  rcases h with ⟨rfl, rfl⟩ | ⟨rfl, rfl⟩ | ⟨rfl, rfl⟩ | ⟨rfl, rfl⟩ <;> exact ⟨rfl, rfl⟩

theorem readable (change : Change) (h : change ∈ rebuilding.changes facts) :
    ∃ sql, change.text facts.builder rebuilding.table = .ok sql ∧ statements.get? sql = some change := by
  have hchange : change ∈ statements.map Prod.snd := h
  obtain ⟨⟨sql, _⟩, hentry, rfl⟩ := List.mem_map.1 hchange
  exact ⟨sql, text_of_mem hentry⟩

theorem serves : Serves connection id id rebuilding facts :=
  Content.database_serves (w := rebuilding) (f := facts) readable

theorem found : ((editor.alterationFacts rebuilding.table rebuilding.target).transcript connection
    none table).result.1 = .ok facts := by
  with_unfolding_all rfl

end Documents

open Documents in
/-- Bytes become text, and the rename fails. -/
theorem Edit.perform_keepsData_documents :
    Kept "BODY" "BODY_TMP"
      (∃ f, ((editor.alterationFacts rebuilding.table rebuilding.target).transcript connection none
        Documents.table).result.1 = .ok f ∧ rebuilding.decodes f = true)
      Documents.table
      (((alterColumn rebuilding.table rebuilding.target).perform editor false).transcript connection
        none Documents.table).state := by
  refine perform_keepsData editor (.alterColumn rebuilding.table rebuilding.target) false connection
    none Documents.table id id rebuilding
    (editor.alterationFacts rebuilding.table rebuilding.target) rfl Content.database_readsOnly
    (fun f hf => ?_) fun f hf _ => ?_
  · obtain rfl : facts = f := Except.ok.inj (found.symm.trans hf)
    exact serves
  · obtain rfl : facts = f := Except.ok.inj (found.symm.trans hf)
    exact ⟨by decide, by decide, by decide⟩

end SchemaChange
