import SchemaChange.Proofs.Call.Staged
import SchemaChange.Proofs.Call.Work
import SchemaChange.Proofs.Rebuild.Survival

/-!
# How edits end

An edit that is no rebuild finds out what its work is, sends it in turn unless there is nothing to do,
and ends with the verdict on what was sent. `Plans` says so of an operation, and `Finishes` of one whose
work is known already.

* `Inquiry.prepares`: an inquiry only looks things up, and how it fails;
* `Edit.perform_plans`: every edit that reports an outcome ends so.
-/

namespace SchemaChange

variable {α β σ : Type} {i : Inspector} {copies ignoring : Bool} {l l' : Option CaseRule}
  {xs ys zs : List Exchange} {w : Work} {work? : Edit.Findings → Option (Except BuildError Work)}

/-! ## Look-ups that fail -/

/-- The failure is a refusal, or the connection was lost over one of the exchanges. -/
def Unanswered (xs : List Exchange) (f : Failure) : Prop :=
  f.isRefusal = true ∨ f.isConnection = true ∧ ∃ x ∈ xs, x.failed = true

/-- A connection that is lost over one of some exchanges is lost over one of more. -/
theorem Unanswered.mono {f : Failure} (h : Unanswered xs f) (hsub : xs ⊆ ys) : Unanswered ys f :=
  h.imp_right fun ⟨hf, x, hx, hfailed⟩ => ⟨hf, x, hsub hx, hfailed⟩

/-- A look-up fails by a refusal, or because the connection is lost over it. -/
theorem Unanswered.lookUp {context : String} {q : Request} {reply : q.Reply} {f : Failure}
    (h : (reply.mapError fun e => Failure.database (e.inCatalog context)) = .error f) :
    Unanswered [⟨q, reply⟩] f := by
  cases reply with
  | ok a => cases h
  | error e =>
    obtain rfl := Except.error.inj h
    cases hconn : e.isConnection with
    | false =>
      refine .inl ?_
      simp [Failure.isRefusal, Failure.isMetadata, e.inCatalog_isMetadata, hconn]
    | true =>
      exact .inr ⟨(e.inCatalog_isConnection context).trans hconn, _, List.mem_singleton_self _, rfl⟩

/-- An operation that only looks things up, and fails because it is refused or because the connection is
    lost. -/
structure Prepares (copies : Bool) (q : Operation β) : Prop where
  asks : q.Asks fun r => r.looksUp copies = true
  error : ∀ ⦃l xs f l'⦄, q.Course l xs (.error f) l' → Unanswered xs f

namespace Prepares

theorem pure (b : β) : Prepares copies (pure b) where
  asks := .pure b
  error _ _ _ _ hc := by cases (Operation.course_pure_iff.1 hc).2.1

/-- A refusal needs no look-up. -/
theorem fail (f : Failure) (hf : f.isRefusal = true) : Prepares copies (throw f : Operation β) where
  asks := .fail f
  error _ _ _ _ hc := by
    obtain rfl := Except.error.inj (Operation.course_throw_iff.1 hc).2.1
    exact .inl hf

/-- Preparations one after the other are a preparation. -/
theorem bind {o : Operation α} {q : α → Operation β} (ho : Prepares copies o)
    (hq : ∀ a, Prepares copies (q a)) : Prepares copies (o >>= q) where
  asks := ho.asks.bind fun a => (hq a).asks
  error _ _ _ _ hc := by
    rcases Operation.course_bind_iff.1 hc with ⟨a, l₁, ys, zs, _, hnext, rfl⟩ | ⟨e, hfail, he⟩
    · exact ((hq a).error hnext).mono (List.subset_append_right ys zs)
    · obtain rfl := Except.error.inj he
      exact ho.error hfail

theorem lookUp (context : String) {r : Request} (hr : r.looksUp copies = true) :
    Prepares copies (Operation.lookUp context r) where
  asks := Operation.lookUp_asks hr
  error _ _ _ _ hc := by
    obtain ⟨reply, rfl, _, hf⟩ := Operation.course_lookUp_iff.1 hc
    exact .lookUp hf.symm

/-- A request to the catalog prepares what follows, also by failing where there is none. -/
theorem inCatalog (context : String) {r : Request} (hr : r.introspects = true) :
    Prepares copies (i.inCatalog context r) where
  asks := Inspector.inCatalog_asks (Request.looksUp_of_introspects hr)
  error _ _ _ _ hc := by
    obtain ⟨_, hc⟩ := Inspector.course_inCatalog_iff.1 hc
    split at hc
    · obtain ⟨reply, rfl, hf⟩ := hc
      exact .lookUp hf.symm
    · obtain rfl := Except.error.inj hc.2
      exact .inl rfl

theorem caseRule : Prepares copies i.caseRule where
  asks := Inspector.caseRule_asks rfl
  error _ _ _ _ hc := by
    have hc := Inspector.course_caseRule_iff.1 hc
    split at hc
    · cases hc.2.1
    · have hasked (context : String) : Prepares copies (i.inCatalog context .identifierCase) :=
        .inCatalog context rfl
      exact (hasked _).error hc.1

theorem builder : Prepares copies i.builder :=
  .bind .caseRule fun _ => .pure _

/-- The type of a column is prepared by look-ups, and refused if there is no such column. -/
theorem columnSqlType (table column : String) : Prepares copies (i.columnSqlType table column) := by
  refine .bind (.bind ?_ fun info? => ?_) fun _ => .pure _
  · exact .bind .caseRule fun _ => .bind (.inCatalog _ rfl) fun _ => .pure _
  · cases info? with
    | none => exact .fail _ rfl
    | some info => exact .pure info

theorem primaryKeyColumns (table : String) : Prepares copies (i.primaryKeyColumns table) :=
  .bind (.bind .caseRule fun _ => .pure _) fun _ => .bind (.inCatalog _ rfl) fun _ => .pure _

end Prepares

/-- An inquiry prepares an edit that reads no rows. -/
theorem Inquiry.prepares {o : Inspector.Setting → Operation α} (h : Inquiry i o)
    (setting : Inspector.Setting) : Prepares false (o setting) := by
  induction h with
  | pure a => exact .pure a
  | fail f hf => exact .fail f hf
  | bind _ _ ho hf => exact ho.bind hf
  | lookUp context q _ hq => exact .lookUp context hq
  | inCatalog context q hq => exact .inCatalog context (Request.introspects_of_readsSchema hq)
  | caseRule => exact .caseRule

/-! ## Endings -/

/-- How an edit ends, given which work is `due`: with look-ups alone, because there is nothing to do or
    one of them failed, or with the verdict on the work. -/
inductive Ending (copies ignoring : Bool) (due : Work → Prop) :
    List Exchange → Except Failure Outcome → Prop
  | skipped {xs : List Exchange} : (∀ x ∈ xs, x.request.looksUp copies = true) →
      Ending copies ignoring due xs (.ok .skipped)
  | refused {xs : List Exchange} {f : Failure} : (∀ x ∈ xs, x.request.looksUp copies = true) →
      Unanswered xs f → Ending copies ignoring due xs (.error f)
  | sent {w : Work} {ys zs : List Exchange} : due w →
      (∀ y ∈ ys, y.request.looksUp copies = true) → (∀ z ∈ zs, z.request.looksUp copies = false) →
      InTurn Exchange.failed (w.requests (selectedRows zs)) zs →
      Ending copies ignoring due (ys ++ zs) (verdict ignoring zs)

namespace Ending

variable {due due' : Work → Prop} {r : Except Failure Outcome}

/-- An ending stays one when more work is due. -/
theorem mono (h : Ending copies ignoring due xs r) (hdue : ∀ w, due w → due' w) :
    Ending copies ignoring due' xs r := by
  cases h with
  | skipped hxs => exact .skipped hxs
  | refused hxs hf => exact .refused hxs hf
  | sent hw hys hzs hturn => exact .sent (hdue _ hw) hys hzs hturn

/-- Look-ups may come before. -/
theorem after (h : Ending copies ignoring due xs r)
    (hys : ∀ y ∈ ys, y.request.looksUp copies = true) :
    Ending copies ignoring due (ys ++ xs) r := by
  have happend : ∀ {zs : List Exchange}, (∀ z ∈ zs, z.request.looksUp copies = true) →
      ∀ x ∈ ys ++ zs, x.request.looksUp copies = true :=
    fun hzs x hx => (List.mem_append.1 hx).elim (hys x) (hzs x)
  cases h with
  | skipped hxs => exact .skipped (happend hxs)
  | refused hxs hf => exact .refused (happend hxs) (hf.mono (List.subset_append_right ys xs))
  | sent hw hys' hzs hturn =>
    rw [← List.append_assoc]
    exact .sent hw (happend hys') hzs hturn

end Ending

/-! ## Work that is known -/

/-- The operation does the work `w`, unless there is nothing to do. -/
def Finishes (copies ignoring : Bool) (w : Work) (o : Operation Outcome) : Prop :=
  ∀ ⦃l xs r l'⦄, o.Course l xs r l' → Ending copies ignoring (· = w) xs r

namespace Finishes

theorem skip : Finishes copies ignoring w (pure .skipped) := by
  intro l xs r l' hc
  obtain ⟨rfl, rfl, _⟩ := Operation.course_pure_iff.1 hc
  exact .skipped fun _ hx => absurd hx List.not_mem_nil

theorem after {q : Operation β} {o : β → Operation Outcome} (hq : Prepares copies q)
    (ho : ∀ b, Finishes copies ignoring w (o b)) : Finishes copies ignoring w (q >>= o) := by
  intro l xs r l' hc
  rcases Operation.course_bind_iff.1 hc with ⟨b, l₁, ys, zs, hb, hnext, rfl⟩ | ⟨f, hfail, rfl⟩
  · exact (ho b hnext).after (hq.asks hb)
  · exact .refused (hq.asks hfail) (hq.error hfail)

/-- An inquiry prepares what follows it. -/
theorem inquire {q : Inspector.Setting → Operation β} {o : β → Operation Outcome}
    (hq : Inquiry i q) (ho : ∀ b, Finishes false ignoring w (o b)) :
    Finishes false ignoring w (q i.setting >>= o) :=
  .after (hq.prepares _) ho

/-- The work is sent in turn. -/
theorem send {o : Operation Outcome} (hasks : o.Asks fun r => r.looksUp copies = false)
    (hsends : Sends o ignoring fun xs =>
      InTurn Exchange.failed (w.requests (selectedRows xs)) xs) :
    Finishes copies ignoring w o := by
  intro l xs r l' hc
  obtain ⟨hturn, rfl, _⟩ := hsends hc
  have hends : Ending copies ignoring (· = w) ([] ++ xs) (verdict ignoring xs) :=
    .sent rfl (fun _ hy => absurd hy List.not_mem_nil) (hasks hc) hturn
  exact hends

/-- Statements in turn finish the work that they are. -/
theorem runAll (sqls : List String) :
    Finishes copies ignoring (.statements sqls) (Editor.runAll ignoring sqls) :=
  .send (Editor.runAll_plain (fun _ _ => rfl) ignoring sqls).asks (Editor.runAll_sends ignoring sqls)

theorem run (sql : String) :
    Finishes copies ignoring (.statements [sql]) (Editor.run sql ignoring) :=
  .send (Editor.run_plain (fun _ _ => rfl) ignoring sql).asks (Editor.run_sends sql ignoring)

theorem runUnless (done : Bool) (sql : String) :
    Finishes copies ignoring (.statements [sql]) (Editor.runUnless done sql ignoring) := by
  cases done with
  | true => exact .skip
  | false => exact .run sql

/-- A copy finishes the work that it is. -/
theorem applyCopy (copy : Copy) :
    Finishes true ignoring (.copy copy) (Editor.applyCopy copy ignoring) :=
  .send (Editor.applyCopy_plain (fun _ _ => rfl) ignoring (fun _ => rfl) copy).asks
    (Editor.applyCopy_sends copy ignoring)

end Finishes

/-! ## Work that is found out first -/

/-- What `find` finds out over the first of the exchanges makes `w` the work. -/
def Planned (work? : Edit.Findings → Option (Except BuildError Work)) (find : Operation Edit.Findings)
    (l : Option CaseRule) (xs : List Exchange) (w : Work) : Prop :=
  ∃ ys zs f l₁, xs = ys ++ zs ∧ find.Course l ys (.ok f) l₁ ∧ work? f = some (.ok w)

/-- The operation finds out what its work is, as `find` does, and does it, unless there is nothing to
    do. -/
def Plans (copies ignoring : Bool) (work? : Edit.Findings → Option (Except BuildError Work))
    (find : Operation Edit.Findings) (o : Operation Outcome) : Prop :=
  ∀ ⦃l xs r l'⦄, o.Course l xs r l' → Ending copies ignoring (Planned work? find l xs) xs r

namespace Plans

variable {find : Operation Edit.Findings}

theorem skip : Plans copies ignoring work? find (pure .skipped) := by
  intro l xs r l' hc
  obtain ⟨rfl, rfl, _⟩ := Operation.course_pure_iff.1 hc
  exact .skipped fun _ hx => absurd hx List.not_mem_nil

/-- Where the work is refused, nothing is planned. -/
theorem refuse (f : Failure) (hf : f.isRefusal = true) :
    Plans copies ignoring work? find (throw f) := by
  intro l xs r l' hc
  obtain ⟨rfl, rfl, _⟩ := Operation.course_throw_iff.1 hc
  exact .refused (fun _ hx => absurd hx List.not_mem_nil) (.inl hf)

/-- What is found out is a fact about the work. -/
theorem fact {q : Operation β} {find : β → Operation Edit.Findings} {o : β → Operation Outcome}
    (hq : Prepares copies q) (ho : ∀ b, Plans copies ignoring work? (find b) (o b)) :
    Plans copies ignoring work? (q >>= find) (q >>= o) := by
  intro l xs r l' hc
  rcases Operation.course_bind_iff.1 hc with ⟨b, l₁, us, vs, hb, hnext, rfl⟩ | ⟨f, hfail, rfl⟩
  · refine ((ho b hnext).mono ?_).after (hq.asks hb)
    -- What the edit has asked by now, `find` asks too, and gets the same answer.
    rintro w ⟨ys, zs, f, l₂, rfl, hfind, hw⟩
    exact ⟨us ++ ys, zs, f, l₂, (List.append_assoc us ys zs).symm,
      Operation.course_bind_iff.2 (.inl ⟨b, l₁, us, ys, hb, hfind, rfl⟩), hw⟩
  · exact .refused (hq.asks hfail) (hq.error hfail)

/-- All is known. -/
theorem known {f : Edit.Findings} {o : Operation Outcome} (hw : work? f = some (.ok w))
    (ho : Finishes copies ignoring w o) : Plans copies ignoring work? (pure f) o := by
  intro l xs r l' hc
  refine (ho hc).mono ?_
  rintro _ rfl
  exact ⟨[], xs, f, l, rfl, Operation.course_pure_iff.2 ⟨rfl, rfl, rfl⟩, hw⟩

/-- All is known but what the builder makes of it. -/
theorem built {f : Edit.Findings} {made : Except BuildError α} {work : α → Work}
    {o : α → Operation Outcome} (hw : work? f = some (work <$> made))
    (ho : ∀ a, Finishes copies ignoring (work a) (o a)) :
    Plans copies ignoring work? (pure f) (Operation.built made >>= o) := by
  cases made with
  | error e => exact .refuse (.build e) rfl
  | ok a => exact .known hw (ho a)

/-- The case rule of the database is found out, and the builder makes something with it. -/
theorem build (e : Editor) {make : Builder → Except BuildError α} {work : α → Work}
    {findings : Builder → Edit.Findings} {o : α → Operation Outcome}
    (hw : ∀ b, work? (findings b) = some (work <$> make b))
    (ho : ∀ a, Finishes copies ignoring (work a) (o a)) :
    Plans copies ignoring work? (e.inspector.builder >>= fun b => pure (findings b))
      (e.build make >>= o) := by
  unfold Editor.build
  rw [bind_assoc]
  exact .fact .builder fun b => .built (hw b) ho

/-- An edit ends as it reports. -/
theorem of {o : Operation Outcome} {r result : Except Failure Outcome}
    (ho : Plans copies ignoring work? find o) (hc : o.Course l xs r l')
    (hr : some r = some result) : Ending copies ignoring (Planned work? find l xs) xs result :=
  Option.some.inj hr ▸ ho hc

end Plans

/-! ## Edits -/

namespace Edit

variable (e : Editor)

theorem createSequence_plans (name : String) (start increment : Int64) :
    Plans copies true (createSequence name start increment).work?
      ((createSequence name start increment).findings e) (e.createSequence name start increment) := by
  unfold Editor.createSequence
  split
  · exact .build e (fun _ => rfl) .run
  · exact .skip

theorem dropSequence_plans (name : String) :
    Plans copies true (dropSequence name).work? ((dropSequence name).findings e)
      (e.dropSequence name) := by
  unfold Editor.dropSequence
  split
  · exact .build e (fun _ => rfl) .run
  · exact .skip

/-- A column is added by the statements that are built for it, unless there is one of the name. -/
theorem addColumn_plans (table : String) (column : ColumnSpec) :
    Plans false ignoring (addColumn table column).work? ((addColumn table column).findings e)
      (e.addColumn table column ignoring) := by
  refine .build e (fun _ => rfl) fun batch =>
    .inquire (.columnExists e.inspector table column.name) fun found => ?_
  cases found with
  | true => exact .skip
  | false => exact .runAll batch.statements

/-- A dialect that changes types in place sends one statement, whatever the type and the key are. -/
theorem alterColumn_inPlace {b : Builder} (h : b.dialect.changesColumnTypes = true) (table : String)
    (column : ColumnSpec) (current : SqlType) (keyColumns : List String) (ignoring : Bool) :
    (Operation.built (b.alterColumn table column current keyColumns) >>= fun change =>
        Editor.applyChange change ignoring) =
      Operation.built (b.changeColumnInPlace table column) >>= fun sql =>
        Editor.run sql ignoring := by
  unfold Builder.alterColumn
  rw [if_pos h]
  cases b.changeColumnInPlace table column <;> rfl

/-- Where types are changed in place, to alter a column is one statement. -/
theorem alterColumn_plans (table : String) (column : ColumnSpec)
    (h : e.dialect.changesColumnTypes = true) :
    Plans copies ignoring (alterColumn table column).work? ((alterColumn table column).findings e)
      (e.alterColumn table column ignoring) := by
  -- The builder is opened down to the case rule, so that its dialect is seen to be the editor's.
  unfold Editor.alterColumn Editor.planChange findings Inspector.builder
  simp only [h, if_true, bind_assoc, pure_bind]
  refine .fact .caseRule fun rule => ?_
  rw [alterColumn_inPlace h]
  exact .built rfl .run

/-- NULL is allowed or forbidden by a statement with the type that the column is found to have. -/
theorem setColumnNullable_plans (table column : String) (nullable : Bool) :
    Plans false ignoring (setColumnNullable table column nullable).work?
      ((setColumnNullable table column nullable).findings e)
      (e.setColumnNullable table column nullable ignoring) := by
  refine .fact ((Inquiry.requireColumn e.inspector table column).prepares
    e.inspector.setting) fun info => ?_
  split
  · exact .skip
  · exact .build e (fun _ => rfl) .run

/-- How a column is copied hangs on the types that are found, and where it is decoded on the key. -/
theorem copyColumn_plans (table source target : String) :
    Plans true ignoring (copyColumn table source target).work?
      ((copyColumn table source target).findings e)
      (e.copyColumn table source target ignoring) := by
  refine .fact .builder fun builder => .fact (.columnSqlType table source) fun sourceType =>
    .fact (.columnSqlType table target) fun targetType => ?_
  split
  · exact .fact (.primaryKeyColumns table) fun keyColumns => .built rfl .applyCopy
  · exact .built rfl .run

theorem addPrimaryKey_plans (table name : String) (columns : List String) :
    Plans false ignoring (addPrimaryKey table name columns).work?
      ((addPrimaryKey table name columns).findings e)
      (e.addPrimaryKey table name columns ignoring) := by
  refine .build e (fun _ => rfl) fun sql =>
    .inquire (.hasPrimaryKey e.inspector table none) fun keyed => ?_
  cases keyed with
  | true => exact .skip
  | false =>
    exact .inquire (.columnsExist e.inspector table columns) fun found => .runUnless _ sql

theorem addUnique_plans (table name : String) (columns : List String) :
    Plans false ignoring (addUnique table name columns).work?
      ((addUnique table name columns).findings e) (e.addUnique table name columns ignoring) :=
  .build e (fun _ => rfl) fun sql =>
    .inquire (.hasConstraint e.inspector table name) fun found => .runUnless found sql

/-- A foreign key is added unless there is one of its name or of its columns. -/
theorem addForeignKey_plans (c : ConstraintSpec) :
    Plans false ignoring (addForeignKey c).work? ((addForeignKey c).findings e)
      (e.addForeignKey c ignoring) := by
  unfold Editor.addForeignKey
  split
  · exact .build e (fun _ => rfl) fun sql =>
      .inquire (.hasForeignKey e.inspector c.table _ c.columns _) fun found => .runUnless found sql
  · exact .refuse (.build (.constraintKindMismatch c.name "foreign key")) rfl

/-- A constraint is planned as the kind that it is of. -/
theorem addConstraint_plans (c : ConstraintSpec) :
    Plans false ignoring (addConstraint c).work? ((addConstraint c).findings e)
      (e.addConstraint c ignoring) := by
  obtain ⟨table, name, columns, kind⟩ := c
  cases kind with
  | primaryKey => exact addPrimaryKey_plans e table name columns
  | unique => exact addUnique_plans e table name columns
  | foreignKey _ _ _ => exact addForeignKey_plans e _

/-- Every edit that reports an outcome, but for a rebuild, plans its work. -/
theorem perform_plans {edit : Edit} (h : edit.rebuilding? e = none) {l l' : Option CaseRule}
    {r : Except Failure edit.Result} {result : Except Failure Outcome}
    (hc : (edit.perform e ignoring).Course l xs r l') (hr : edit.report? r = some result) :
    Ending edit.copiesRows (edit.ignores ignoring) (Planned edit.work? (edit.findings e) l xs) xs
      result := by
  cases edit with
  | createTable table =>
    exact Plans.of (.build e (fun _ => rfl) fun sql =>
      .inquire (.tableExists e.inspector table.name) fun found => .runUnless found sql) hc hr
  | dropTable table =>
    exact Plans.of (.build e (fun _ => rfl) fun sql =>
      .inquire (.tableExists e.inspector table) fun found => .runUnless (!found) sql) hc hr
  | emptyTable table => exact Plans.of (.build e (fun _ => rfl) .run) hc hr
  | createIndex table name columns unique =>
    exact Plans.of (.build e (fun _ => rfl) fun sql =>
      .inquire (.indexExists e.inspector table name) fun found => .runUnless found sql) hc hr
  | dropIndex table name =>
    exact Plans.of (.build e (fun _ => rfl) fun sql =>
      .inquire (.indexExists e.inspector table name) fun found => .runUnless (!found) sql) hc hr
  | createSequence name start increment => exact Plans.of (createSequence_plans e name start increment) hc hr
  | dropSequence name => exact Plans.of (dropSequence_plans e name) hc hr
  | addColumn table column => exact Plans.of (addColumn_plans e table column) hc hr
  | dropColumn table column =>
    exact Plans.of (.build e (fun _ => rfl) fun sql =>
      .inquire (.columnExists e.inspector table column) fun found => .runUnless (!found) sql) hc hr
  | renameColumn table oldName column => exact Plans.of (.build e (fun _ => rfl) .run) hc hr
  | alterColumn table column =>
    exact Plans.of (alterColumn_plans e table column (by simpa [rebuilding?] using h)) hc hr
  | changeColumnType table current column =>
    -- Neither the detour nor a dialect that rebuilds columns.
    have hdetour : ¬(e.config.databaseType = .oracle ∧ current = .string ∧
        column.type = .charArray) := fun hd => by simp [rebuilding?, hd] at h
    have halter : e.dialect.changesColumnTypes = true := by simpa [rebuilding?, hdetour] using h
    have hc : (e.alterColumn table column ignoring).Course l xs r l' := by
      rwa [perform, Editor.changeColumnType, if_neg hdetour] at hc
    exact Plans.of (alterColumn_plans e table column halter) hc hr
  | setColumnNullable table column nullable =>
    exact Plans.of (setColumnNullable_plans e table column nullable) hc hr
  | copyColumn table source target => exact Plans.of (copyColumn_plans e table source target) hc hr
  | addConstraint c => exact Plans.of (addConstraint_plans e c) hc hr
  | addPrimaryKey table name columns => exact Plans.of (addPrimaryKey_plans e table name columns) hc hr
  | addUnique table name columns => exact Plans.of (addUnique_plans e table name columns) hc hr
  | addForeignKey c => exact Plans.of (addForeignKey_plans e c) hc hr
  | dropForeignKey table name =>
    exact Plans.of (.build e (fun _ => rfl) fun sql =>
      .inquire (.hasForeignKeyNamed e.inspector table name) fun found =>
        .runUnless (!found) sql) hc hr
  | dropUnique table name =>
    exact Plans.of (.build e (fun _ => rfl) fun sql =>
      .inquire (.hasConstraint e.inspector table name) fun found => .runUnless (!found) sql) hc hr
  | dropPrimaryKey table name column? =>
    exact Plans.of (.build e (fun _ => rfl) fun sql =>
      .inquire (.hasPrimaryKey e.inspector table column?) fun found =>
        .runUnless (!found) sql) hc hr
  | executeStatement sql => exact Plans.of (.known rfl (.run sql)) hc hr
  | executeIfColumn sql table column =>
    exact Plans.of (.known rfl (.inquire (.columnExists e.inspector table column) fun found =>
      .runUnless (!found) sql)) hc hr
  | insertRow _ _ _ | updateTable _ _ _ _ | executeUpdate _ | executeScript _ => cases hr

end Edit

end SchemaChange
