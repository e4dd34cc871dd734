import SchemaChange.Proofs.Call.Inquiry
import SchemaChange.Proofs.Course.Tolerance

/-!
# Edits in stages

An edit makes all its look-ups before it sends its first statement, and knows of ignoring rejections
only when it sends statements. `Staged` says so of an operation, in every setting of its inspector, and
ignoring rejections or not.

* `Edit.perform_staged`: every edit is an inquiry and then sends statements.
-/

namespace SchemaChange

variable {α β : Type} {copies : Bool}

/-! ## Sending statements -/

namespace Editor

open Operation (Plain)

variable {P : Request → Prop} (hP : ∀ sql params, P (.execute sql params)) (ignoring : Bool)

include hP

/-- One statement is sent, and nothing else. -/
theorem execute_plain (sql : String) (params : List Value) :
    Plain P (execute sql params ignoring) := by
  refine .attempt_bind (hP sql params) fun reply => ?_
  cases reply with
  | ok n => exact .pure _
  | error e =>
    dsimp only
    split
    · exact .pure _
    · exact .fail _

theorem run_plain (sql : String) : Plain P (run sql ignoring) :=
  (execute_plain hP ignoring sql []).bind fun
    | none => .pure _
    | some _ => .pure _

/-- At most one statement is sent. -/
theorem runUnless_plain (done : Bool) (sql : String) : Plain P (runUnless done sql ignoring) := by
  cases done with
  | true => exact .pure _
  | false => exact run_plain hP ignoring sql

omit hP in
/-- What is made of two plain operations is plain. -/
theorem next_plain {o o' : Operation Outcome} (h : Plain P o) (h' : Plain P o') :
    Plain P (o >>= fun a => if a = .failureIgnored then pure .failureIgnored else o') := by
  refine h.bind fun a => ?_
  split
  · exact .pure _
  · exact h'

theorem runAll_plain (sqls : List String) : Plain P (runAll ignoring sqls) := by
  induction sqls with
  | nil => exact .pure _
  | cons sql rest ih =>
    rw [runAll_cons]
    exact next_plain (run_plain hP ignoring sql) ih

/-- The rows of a copy are written by statements alone. -/
theorem writeRows_plain (update : String) (keyless : Bool) (rows : List Row) :
    Plain P (writeRows update keyless ignoring rows) := by
  induction rows with
  | nil => exact .pure _
  | cons row rows ih =>
    cases h : writeBack? keyless row with
    | none => rwa [writeRows_cons_none _ _ _ h]
    | some params =>
      rw [writeRows_cons_some _ _ _ h]
      refine (execute_plain hP ignoring update params).bind fun affected? => ?_
      split
      · exact .pure _
      · exact ih

/-- Restorations are statements, whatever becomes of them. -/
theorem restore_plain (outcome : Outcome) (sqls : List String) : Plain P (restore outcome sqls) := by
  induction sqls generalizing outcome with
  | nil => exact .pure _
  | cons sql rest ih =>
    refine (run_plain hP true sql).bind fun a => ?_
    cases a with
    | failureIgnored => exact ih _
    | applied | skipped | appliedWithoutAttributes => exact ih _

/-- The statements of a script are sent one by one. -/
theorem runCounting_plain (summary : ScriptSummary) (sqls : List String) :
    Plain P (runCounting summary sqls) := by
  induction sqls generalizing summary with
  | nil => exact .pure _
  | cons sql rest ih =>
    exact (execute_plain hP true sql []).bind fun
      | none => ih _
      | some _ => ih _

variable (hQ : ∀ sql, P (.query sql []))

include hQ

/-- A copy reads the rows that it writes back. -/
theorem applyCopy_plain (copy : Copy) : Plain P (applyCopy copy ignoring) := by
  cases copy with
  | assign sql => exact run_plain hP ignoring sql
  | decode select update keyColumns =>
    refine .attempt_bind (hQ select) fun reply => ?_
    cases reply with
    | ok result => exact writeRows_plain hP ignoring update keyColumns.isEmpty result.rows
    | error e =>
      dsimp only
      split
      · exact .pure _
      · exact .fail _

/-- A rebuild sends statements, and the query of its copy. -/
theorem applyRebuild_plain (plan : Rebuild) : Plain P (applyRebuild plan ignoring) :=
  next_plain (run_plain hP ignoring plan.addTemporary) <|
    next_plain (applyCopy_plain hP ignoring hQ plan.copy) <|
      next_plain (runAll_plain hP ignoring [plan.dropOld, plan.rename])
        (restore_plain hP .applied plan.restorations)

theorem applyChange_plain (change : ColumnChange) : Plain P (applyChange change ignoring) := by
  cases change with
  | inPlace sql => exact run_plain hP ignoring sql
  | rebuild plan => exact applyRebuild_plain hP ignoring hQ plan

end Editor

/-! ## Stages -/

/-- The last stage of an edit, which rejections are ignored in or not, and which gives `fallback`
    where one is. -/
structure Sending (copies : Bool) (fallback : α) (o : Bool → Operation α) : Prop where
  tolerates : Tolerates (o false) (o true) fallback
  plain (ignoring : Bool) : (o ignoring).Plain fun r => r.looksUp copies = false

/-- An operation, in every setting of its inspector and ignoring rejections or not, that inquires and
    then sends statements. -/
inductive Staged (i : Inspector) (copies : Bool) {α : Type} (fallback : α) :
    (Inspector.Setting → Bool → Operation α) → Prop
  | send {o : Bool → Operation α} : Sending copies fallback o →
      Staged i copies fallback fun _ ignoring => o ignoring
  | inquire {β : Type} {o : Inspector.Setting → Operation β}
      {f : β → Inspector.Setting → Bool → Operation α} :
      Inquiry i o → (∀ b, Staged i copies fallback (f b)) →
        Staged i copies fallback fun w ignoring => o w >>= fun b => f b w ignoring

namespace Sending

/-- A stage that does not know of ignoring, as it never ends in a rejection. -/
theorem const {o : Operation α} (h : Unrejected o)
    (hs : o.Plain fun r => r.looksUp copies = false) (fallback : α) :
    Sending copies fallback fun _ => o :=
  ⟨.refl h fallback, fun _ => hs⟩

/-- A failure that is no rejection is the same with rejections ignored and not. -/
theorem fail (f : Failure) (hf : f.isExecution = false) (fallback : α) :
    Sending copies fallback fun _ => (throw f : Operation α) :=
  const (.fail f hf) (.fail f) fallback

/-- One statement: its rejection is the failure that is ignored. -/
theorem run (sql : String) : Sending copies .failureIgnored fun ignoring => Editor.run sql ignoring :=
  ⟨Editor.run_tolerates sql, fun ignoring => Editor.run_plain (fun _ _ => rfl) ignoring sql⟩

theorem runUnless (done : Bool) (sql : String) :
    Sending copies .failureIgnored fun ignoring => Editor.runUnless done sql ignoring :=
  ⟨Editor.runUnless_tolerates done sql,
    fun ignoring => Editor.runUnless_plain (fun _ _ => rfl) ignoring done sql⟩

theorem runAll (sqls : List String) :
    Sending copies .failureIgnored fun ignoring => Editor.runAll ignoring sqls :=
  ⟨Editor.runAll_tolerates sqls, fun ignoring => Editor.runAll_plain (fun _ _ => rfl) ignoring sqls⟩

/-- A copy, which may query rows before it writes them. -/
theorem applyCopy (copy : Copy) :
    Sending true .failureIgnored fun ignoring => Editor.applyCopy copy ignoring :=
  ⟨Editor.applyCopy_tolerates copy,
    fun ignoring => Editor.applyCopy_plain (fun _ _ => rfl) ignoring (fun _ => rfl) copy⟩

/-- A rebuild ends early where one of its statements is rejected. -/
theorem applyRebuild (plan : Rebuild) :
    Sending true .failureIgnored fun ignoring => Editor.applyRebuild plan ignoring :=
  ⟨Editor.applyRebuild_tolerates plan,
    fun ignoring => Editor.applyRebuild_plain (fun _ _ => rfl) ignoring (fun _ => rfl) plan⟩

theorem applyChange (change : ColumnChange) :
    Sending true .failureIgnored fun ignoring => Editor.applyChange change ignoring :=
  ⟨Editor.applyChange_tolerates change,
    fun ignoring => Editor.applyChange_plain (fun _ _ => rfl) ignoring (fun _ => rfl) change⟩

/-- Where there is nothing to do, nothing is sent. -/
theorem skip : Sending copies .failureIgnored fun _ => (pure .skipped : Operation Outcome) :=
  const (.pure _) (.pure _) _

/-- A statement whose number of affected rows is made something of. -/
theorem count (sql : String) (params : List Value) (f : Option Nat → α) :
    Sending copies (f none) fun ignoring =>
      Editor.execute sql params ignoring >>= fun affected? => pure (f affected?) :=
  ⟨(Editor.execute_tolerates sql params).bind (fun _ => .refl (.pure _) _) rfl,
    fun ignoring => (Editor.execute_plain (fun _ _ => rfl) ignoring sql params).bind fun _ => .pure _⟩

/-- A script counts the rejections of its statements, and knows of no other way to ignore them. -/
theorem executeScript (file? : Option (List UInt8)) (fallback : Editor.ScriptSummary) :
    Sending copies fallback fun _ => Editor.executeScript file? := by
  unfold Editor.executeScript
  cases file? with
  | none => exact fail _ rfl _
  | some bytes =>
    dsimp only
    cases Text.strictText? bytes with
    | none => exact fail _ rfl _
    | some script =>
      exact const (Editor.runCounting_unrejected {} _)
        (Editor.runCounting_plain (fun _ _ => rfl) {} _) fallback

end Sending

/-! ## Edits -/

namespace Editor

variable (e : Editor)

theorem under_dialect (w : Inspector.Setting) : (e.under w).dialect = e.dialect := rfl

theorem under_config (w : Inspector.Setting) : (e.under w).config = e.config := rfl

/-- Building a statement in an editor resolves the case rule first. -/
theorem build_inquiry {α : Type} (make : Builder → Except BuildError α) :
    Inquiry e.inspector fun w => (e.under w).build make :=
  .bind (.builder e.inspector) fun _ => .built e.inspector _

/-- The change of a type is planned by look-ups. -/
theorem planChange_inquiry (table : String) (column : ColumnSpec) :
    Inquiry e.inspector fun w => (e.under w).planChange table column := by
  refine .bind (.builder e.inspector) fun builder => ?_
  by_cases h : e.dialect.changesColumnTypes
  · simp only [under_dialect, h, if_true]
    exact .built e.inspector _
  · simp only [under_dialect, h]
    exact .bind (.built e.inspector _) fun _ => .bind (.columnSqlType e.inspector table column.name)
      fun _ => .bind (.primaryKeyColumns e.inspector table) fun _ => .built e.inspector _

/-- A change of type is planned before it is carried out. -/
theorem alterColumn_staged (table : String) (column : ColumnSpec) :
    Staged e.inspector true .failureIgnored fun w ignoring =>
      (e.under w).alterColumn table column ignoring :=
  .inquire (e.planChange_inquiry table column) fun change => .send (.applyChange change)

theorem changeColumnType_staged (table : String) (current : ColumnType) (column : ColumnSpec) :
    Staged e.inspector true .failureIgnored fun w ignoring =>
      (e.under w).changeColumnType table current column ignoring := by
  unfold changeColumnType
  by_cases h : e.config.databaseType = .oracle ∧ current = .string ∧ column.type = .charArray
  · simp only [under_config, h, and_self, if_true]
    exact .inquire (e.build_inquiry _) fun plan => .send (.applyRebuild plan)
  · simp only [under_config, h, if_false]
    exact e.alterColumn_staged table column

/-- What the column is now is looked up before it is changed. -/
theorem setColumnNullable_staged (table column : String) (nullable : Bool) :
    Staged e.inspector copies .failureIgnored fun w ignoring =>
      (e.under w).setColumnNullable table column nullable ignoring := by
  refine .inquire (.requireColumn e.inspector table column) fun info => ?_
  by_cases h : info.nullable = nullable
  · simp only [if_pos h]
    exact .send .skip
  · simp only [if_neg h]
    exact .inquire (e.build_inquiry _) fun sql => .send (.run sql)

theorem copyColumn_staged (table source target : String) :
    Staged e.inspector true .failureIgnored fun w ignoring =>
      (e.under w).copyColumn table source target ignoring := by
  refine .inquire (.builder e.inspector) fun builder =>
    .inquire (.columnSqlType e.inspector table source) fun sourceType =>
      .inquire (.columnSqlType e.inspector table target) fun targetType => ?_
  by_cases h : sourceType.isBinary && targetType.isText
  · simp only [if_pos h]
    exact .inquire (.primaryKeyColumns e.inspector table) fun _ =>
      .inquire (.built e.inspector _) fun copy => .send (.applyCopy copy)
  · simp only [if_neg h]
    exact .inquire (.built e.inspector _) fun sql => .send (.applyCopy (.assign sql))

/-- The outcome of a sequence is ignored in any case. -/
theorem createSequence_staged (name : String) (start increment : Int64) :
    Staged e.inspector copies .failureIgnored fun w _ =>
      (e.under w).createSequence name start increment := by
  unfold createSequence
  by_cases h : e.dialect.hasSequences
  · simp only [under_dialect, h, if_true]
    exact .inquire (e.build_inquiry _) fun sql =>
      .send (.const (run_unrejected sql) (run_plain (fun _ _ => rfl) true sql) _)
  · simp only [under_dialect, h]
    exact .send .skip

theorem dropSequence_staged (name : String) :
    Staged e.inspector copies .failureIgnored fun w _ =>
      (e.under w).dropSequence name := by
  unfold dropSequence
  by_cases h : e.dialect.hasSequences
  · simp only [under_dialect, h, if_true]
    exact .inquire (e.build_inquiry _) fun sql =>
      .send (.const (run_unrejected sql) (run_plain (fun _ _ => rfl) true sql) _)
  · simp only [under_dialect, h]
    exact .send .skip

/-- The statements are built and the column is looked for before one of them is sent. -/
theorem addColumn_staged (table : String) (column : ColumnSpec) :
    Staged e.inspector copies .failureIgnored fun w ignoring =>
      (e.under w).addColumn table column ignoring := by
  refine .inquire (e.build_inquiry _) fun batch =>
    .inquire (.columnExists e.inspector table column.name) fun found => ?_
  cases found with
  | true => exact .send .skip
  | false => exact .send (.runAll batch.statements)

theorem addPrimaryKey_staged (table name : String) (columns : List String) :
    Staged e.inspector copies .failureIgnored fun w ignoring =>
      (e.under w).addPrimaryKey table name columns ignoring := by
  refine .inquire (e.build_inquiry _) fun sql =>
    .inquire (.hasPrimaryKey e.inspector table none) fun keyed => ?_
  cases keyed with
  | true => exact .send .skip
  | false =>
    exact .inquire (.columnsExist e.inspector table columns) fun found => .send (.runUnless _ sql)

theorem addUnique_staged (table name : String) (columns : List String) :
    Staged e.inspector copies .failureIgnored fun w ignoring =>
      (e.under w).addUnique table name columns ignoring :=
  .inquire (e.build_inquiry _) fun sql =>
    .inquire (.hasConstraint e.inspector table name) fun found => .send (.runUnless found sql)

theorem addForeignKey_staged (c : ConstraintSpec) :
    Staged e.inspector copies .failureIgnored fun w ignoring =>
      (e.under w).addForeignKey c ignoring := by
  unfold addForeignKey
  cases c.kind with
  | foreignKey referencedTable referencedColumns _ =>
    exact .inquire (e.build_inquiry _) fun sql =>
      .inquire (.hasForeignKey e.inspector c.table referencedTable c.columns referencedColumns)
        fun found => .send (.runUnless found sql)
  | primaryKey | unique =>
    exact .send (.fail (.build (.constraintKindMismatch c.name "foreign key")) rfl _)

/-- A constraint is added as the kind that it is of. -/
theorem addConstraint_staged (c : ConstraintSpec) :
    Staged e.inspector copies .failureIgnored fun w ignoring =>
      (e.under w).addConstraint c ignoring := by
  unfold addConstraint
  cases c.kind with
  | primaryKey => exact e.addPrimaryKey_staged c.table c.name c.columns
  | unique => exact e.addUnique_staged c.table c.name c.columns
  | foreignKey _ _ _ => exact e.addForeignKey_staged c

end Editor

/-- Every edit is an inquiry and then sends statements. -/
theorem Edit.perform_staged (e : Editor) (edit : Edit) :
    Staged e.inspector edit.copiesRows edit.ignored fun w ignoring =>
      edit.perform (e.under w) ignoring := by
  cases edit with
  | createTable table =>
    exact .inquire (e.build_inquiry _) fun sql =>
      .inquire (.tableExists e.inspector table.name) fun found => .send (.runUnless found sql)
  | dropTable table =>
    exact .inquire (e.build_inquiry _) fun sql =>
      .inquire (.tableExists e.inspector table) fun found => .send (.runUnless (!found) sql)
  | emptyTable table => exact .inquire (e.build_inquiry _) fun sql => .send (.run sql)
  | createIndex table name columns unique =>
    exact .inquire (e.build_inquiry _) fun sql =>
      .inquire (.indexExists e.inspector table name) fun found => .send (.runUnless found sql)
  | dropIndex table name =>
    exact .inquire (e.build_inquiry _) fun sql =>
      .inquire (.indexExists e.inspector table name) fun found => .send (.runUnless (!found) sql)
  | createSequence name start increment => exact e.createSequence_staged name start increment
  | dropSequence name => exact e.dropSequence_staged name
  | addColumn table column => exact e.addColumn_staged table column
  | dropColumn table column =>
    exact .inquire (e.build_inquiry _) fun sql =>
      .inquire (.columnExists e.inspector table column) fun found => .send (.runUnless (!found) sql)
  | renameColumn table oldName column =>
    exact .inquire (e.build_inquiry _) fun sql => .send (.run sql)
  | alterColumn table column => exact e.alterColumn_staged table column
  | changeColumnType table current column => exact e.changeColumnType_staged table current column
  | setColumnNullable table column nullable =>
    exact e.setColumnNullable_staged table column nullable
  | copyColumn table source target => exact e.copyColumn_staged table source target
  | addConstraint c => exact e.addConstraint_staged c
  | addPrimaryKey table name columns => exact e.addPrimaryKey_staged table name columns
  | addUnique table name columns => exact e.addUnique_staged table name columns
  | addForeignKey c => exact e.addForeignKey_staged c
  | dropForeignKey table name =>
    exact .inquire (e.build_inquiry _) fun sql =>
      .inquire (.hasForeignKeyNamed e.inspector table name) fun found =>
        .send (.runUnless (!found) sql)
  | dropUnique table name =>
    exact .inquire (e.build_inquiry _) fun sql =>
      .inquire (.hasConstraint e.inspector table name) fun found => .send (.runUnless (!found) sql)
  | dropPrimaryKey table name column? =>
    exact .inquire (e.build_inquiry _) fun sql =>
      .inquire (.hasPrimaryKey e.inspector table column?) fun found =>
        .send (.runUnless (!found) sql)
  | insertRow table columns values =>
    exact .inquire (e.build_inquiry _) fun statement =>
      .send (.count statement.sql statement.params fun affected? => affected?.any (· != 0))
  | updateTable table column value condition? =>
    exact .inquire (e.build_inquiry _) fun statement =>
      .send (.count statement.sql statement.params fun affected? => affected?.getD 0)
  | executeStatement sql => exact .send (.run sql)
  | executeIfColumn sql table column =>
    exact .inquire (.columnExists e.inspector table column) fun found =>
      .send (.runUnless (!found) sql)
  | executeUpdate sql => exact .send (.count sql [] fun affected? => affected?.getD 0)
  | executeScript file? => exact .send (.executeScript file? _)

end SchemaChange
