import SchemaChange.Editor.Call
import SchemaChange.Proofs.Build.Checked
import SchemaChange.Proofs.Call.Backfill
import SchemaChange.Proofs.Course.Refusal
import SchemaChange.Proofs.Rebuild.Parts

/-!
# Malformed requests

A call that ends in a build error has asked for nothing but look-ups: no statement was sent and no row was
read (`Call.perform_malformed`). Every edit makes its statements before it sends the first one, so the only
question is what was asked for by then. Two inquiries read rows, those for a constraint's name and for
rows of a table, and each makes its query first.

Where several statements are sent they are a plan, and what carries out a plan is given the plan alone
(`PlannedAhead`). A plan of a rebuild has the restorations that the column needs
(`Builder.Parts.restores`), and a column with a default is added by two statements.

* `Question.answer_prudent`, `Edit.perform_prudent`: what refuses has only looked things up;
* `Editor.changeColumnType_eq_bind`, `Editor.addColumn_eq_bind`: what is planned, and what carries it out.
-/

namespace SchemaChange

/-! ## Questions -/

namespace Inspector

variable (i : Inspector)

/-- The query is made before the rows are read. -/
theorem hasConstraint_prudent (table name : String) : Prudent (i.hasConstraint table name) :=
  .after i.builder_looksUp fun _ => .after (LooksUp.lookUp _ rfl) fun _ =>
    .after (LooksUp.built _) fun _ =>
      .of_unrefused ((Unrefused.lookUp _ _).bind fun _ => .pure _)

/-- The count of rows is built before it is asked for. -/
theorem tableHasData_prudent (table : String) : Prudent (i.tableHasData table) := by
  refine .after i.builder_looksUp fun _ => .after (LooksUp.built _) fun _ =>
    .of_unrefused ((Unrefused.lookUp _ _).bind fun result => ?_)
  cases result.scalar?.bind rowCount? with
  | none => exact .database _
  | some count => exact .pure _

end Inspector

/-- A question that is refused has only looked things up. -/
theorem Question.answer_prudent (i : Inspector) (q : Question) : Prudent (q.answer i) := by
  cases q with
  | caseRule => exact .of_looksUp LooksUp.caseRule
  | builder => exact .of_looksUp i.builder_looksUp
  | tableExists table => exact .of_looksUp (i.tableExists_looksUp table)
  | columns table? => exact .of_looksUp (i.columns_looksUp table?)
  | columnInfo table column => exact .of_looksUp (i.columnInfo?_looksUp table column)
  | columnExists table column => exact .of_looksUp (i.columnExists_looksUp table column)
  | columnsExist table names => exact .of_looksUp (i.columnsExist_looksUp table names)
  | columnSqlType table column => exact .of_looksUp (i.columnSqlType_looksUp table column)
  | isColumnNullable table column =>
    exact .of_looksUp ((i.requireColumn_looksUp table column).bind fun _ => .pure _)
  | columnValueKind table column =>
    exact .of_looksUp ((i.columnSqlType_looksUp table column).bind fun _ => .pure _)
  | primaryKeyColumns table => exact .of_looksUp (i.primaryKeyColumns_looksUp table)
  | hasPrimaryKey table column? => exact .of_looksUp (i.hasPrimaryKey_looksUp table column?)
  | importedForeignKeys table => exact .of_looksUp (i.importedForeignKeys_looksUp table)
  | hasForeignKeyNamed table name => exact .of_looksUp (i.hasForeignKeyNamed_looksUp table name)
  | hasForeignKey table referencedTable names references =>
    exact .of_looksUp (i.hasForeignKey_looksUp table referencedTable names references)
  | hasConstraint table name => exact i.hasConstraint_prudent table name
  | indexExists table name => exact .of_looksUp (i.indexExists_looksUp table name)
  | tableHasData table => exact i.tableHasData_prudent table

/-! ## Edits -/

namespace Editor

variable (e : Editor) (ignoring : Bool)

/-- Statements are made, something may be looked up, and what follows refuses nothing. -/
theorem build_prudent {α β : Type} {make : Builder → Except BuildError α} {f : α → Operation β}
    (hf : ∀ a, Unrefused (f a)) : Prudent (e.build make >>= f) :=
  .after (e.build_looksUp make) fun a => .of_unrefused (hf a)

/-- A statement is made, what it is about is looked up, and then it is sent or not. -/
theorem buildUnless_prudent {make : Builder → Except BuildError String} {find : Operation Bool}
    (hfind : Prudent find) (f : Bool → Bool) :
    Prudent (e.build make >>= fun sql => find >>= fun found => runUnless (f found) sql ignoring) :=
  .after (e.build_looksUp make) fun sql =>
    hfind.andThen fun found => runUnless_unrefused ignoring (f found) sql

/-- A change of type is planned by look-ups. -/
theorem planChange_looksUp (table : String) (column : ColumnSpec) :
    LooksUp (e.planChange table column) := by
  refine e.inspector.builder_looksUp.bind fun builder => ?_
  split
  · exact .built _
  · exact (LooksUp.built _).bind fun _ =>
      (e.inspector.columnSqlType_looksUp table column.name).bind fun _ =>
        (e.inspector.primaryKeyColumns_looksUp table).bind fun _ => .built _

/-- What is refused of a change of type is refused while it is planned. -/
theorem alterColumn_prudent (table : String) (column : ColumnSpec) :
    Prudent (e.alterColumn table column ignoring) :=
  .after (e.planChange_looksUp table column) fun change =>
    .of_unrefused (applyChange_unrefused ignoring change)

theorem changeColumnType_prudent (table : String) (current : ColumnType) (column : ColumnSpec) :
    Prudent (e.changeColumnType table current column ignoring) := by
  unfold changeColumnType
  split
  · exact e.build_prudent (applyRebuild_unrefused ignoring)
  · exact e.alterColumn_prudent ignoring table column

/-- The statements that add a column are built before the column is looked for. -/
theorem addColumn_prudent (table : String) (column : ColumnSpec) :
    Prudent (e.addColumn table column ignoring) := by
  refine .after (e.build_looksUp _) fun batch =>
    .after (e.inspector.columnExists_looksUp table column.name) fun found => .of_unrefused ?_
  cases found with
  | true => exact .pure _
  | false => exact runAll_unrefused ignoring batch.statements

theorem setColumnNullable_prudent (table column : String) (nullable : Bool) :
    Prudent (e.setColumnNullable table column nullable ignoring) := by
  refine .after (e.inspector.requireColumn_looksUp table column) fun info => ?_
  split
  · exact .of_looksUp (.pure _)
  · exact e.build_prudent (run_unrefused ignoring)

/-- A copy is built after the types of both columns are known, and before anything is sent. -/
theorem copyColumn_prudent (table source target : String) :
    Prudent (e.copyColumn table source target ignoring) := by
  refine .after e.inspector.builder_looksUp fun builder =>
    .after (e.inspector.columnSqlType_looksUp table source) fun sourceType =>
      .after (e.inspector.columnSqlType_looksUp table target) fun targetType => ?_
  split
  · exact .after (e.inspector.primaryKeyColumns_looksUp table) fun keyColumns =>
      .after (.built _) fun copy => .of_unrefused (applyCopy_unrefused ignoring copy)
  · exact .after (.built _) fun sql => .of_unrefused (applyCopy_unrefused ignoring (.assign sql))

theorem createSequence_prudent (name : String) (start increment : Int64) :
    Prudent (e.createSequence name start increment) := by
  unfold createSequence
  split
  · exact e.build_prudent (run_unrefused true)
  · exact .of_looksUp (.pure _)

theorem dropSequence_prudent (name : String) : Prudent (e.dropSequence name) := by
  unfold dropSequence
  split
  · exact e.build_prudent (run_unrefused true)
  · exact .of_looksUp (.pure _)

theorem addPrimaryKey_prudent (table name : String) (columns : List String) :
    Prudent (e.addPrimaryKey table name columns ignoring) := by
  refine .after (e.build_looksUp _) fun sql =>
    .after (e.inspector.hasPrimaryKey_looksUp table none) fun keyed => ?_
  split
  · exact .of_looksUp (.pure _)
  · exact .after (e.inspector.columnsExist_looksUp table columns) fun found =>
      .of_unrefused (runUnless_unrefused ignoring (!found) sql)

theorem addUnique_prudent (table name : String) (columns : List String) :
    Prudent (e.addUnique table name columns ignoring) :=
  e.buildUnless_prudent ignoring (e.inspector.hasConstraint_prudent table name) id

theorem addForeignKey_prudent (c : ConstraintSpec) : Prudent (e.addForeignKey c ignoring) := by
  unfold addForeignKey
  split
  · exact e.buildUnless_prudent ignoring
      (.of_looksUp (e.inspector.hasForeignKey_looksUp c.table _ c.columns _)) id
  · exact .of_looksUp (.fail _)

/-- A constraint is checked as the kind that it is of, before its statement is sent. -/
theorem addConstraint_prudent (c : ConstraintSpec) : Prudent (e.addConstraint c ignoring) := by
  unfold addConstraint
  split
  · exact e.addPrimaryKey_prudent ignoring c.table c.name c.columns
  · exact e.addUnique_prudent ignoring c.table c.name c.columns
  · exact e.addForeignKey_prudent ignoring c

end Editor

/-- An edit that is refused has only looked things up. -/
theorem Edit.perform_prudent (e : Editor) (ignoring : Bool) (edit : Edit) :
    Prudent (edit.perform e ignoring) := by
  have hfind {find : Operation Bool} (h : LooksUp find) : Prudent find := .of_looksUp h
  cases edit with
  | createTable table =>
    exact e.buildUnless_prudent ignoring (hfind (e.inspector.tableExists_looksUp table.name)) id
  | dropTable table =>
    exact e.buildUnless_prudent ignoring (hfind (e.inspector.tableExists_looksUp table)) not
  | emptyTable table => exact e.build_prudent (Editor.run_unrefused ignoring)
  | createIndex table name columns unique =>
    exact e.buildUnless_prudent ignoring (hfind (e.inspector.indexExists_looksUp table name)) id
  | dropIndex table name =>
    exact e.buildUnless_prudent ignoring (hfind (e.inspector.indexExists_looksUp table name)) not
  | createSequence name start increment => exact e.createSequence_prudent name start increment
  | dropSequence name => exact e.dropSequence_prudent name
  | addColumn table column => exact e.addColumn_prudent ignoring table column
  | dropColumn table column =>
    exact e.buildUnless_prudent ignoring (hfind (e.inspector.columnExists_looksUp table column)) not
  | renameColumn table oldName column => exact e.build_prudent (Editor.run_unrefused ignoring)
  | alterColumn table column => exact e.alterColumn_prudent ignoring table column
  | changeColumnType table current column =>
    exact e.changeColumnType_prudent ignoring table current column
  | setColumnNullable table column nullable =>
    exact e.setColumnNullable_prudent ignoring table column nullable
  | copyColumn table source target => exact e.copyColumn_prudent ignoring table source target
  | addConstraint c => exact e.addConstraint_prudent ignoring c
  | addPrimaryKey table name columns => exact e.addPrimaryKey_prudent ignoring table name columns
  | addUnique table name columns => exact e.addUnique_prudent ignoring table name columns
  | addForeignKey c => exact e.addForeignKey_prudent ignoring c
  | dropForeignKey table name =>
    exact e.buildUnless_prudent ignoring
      (hfind (e.inspector.hasForeignKeyNamed_looksUp table name)) not
  | dropUnique table name =>
    exact e.buildUnless_prudent ignoring (e.inspector.hasConstraint_prudent table name) not
  | dropPrimaryKey table name column? =>
    exact e.buildUnless_prudent ignoring
      (hfind (e.inspector.hasPrimaryKey_looksUp table column?)) not
  | insertRow table columns values =>
    exact e.build_prudent fun statement =>
      (Editor.execute_unrefused ignoring statement.sql statement.params).bind fun _ => .pure _
  | updateTable table column value condition? =>
    exact e.build_prudent fun statement =>
      (Editor.execute_unrefused ignoring statement.sql statement.params).bind fun _ => .pure _
  | executeStatement sql => exact .of_unrefused (Editor.run_unrefused ignoring sql)
  | executeIfColumn sql table column =>
    exact .after (e.inspector.columnExists_looksUp table column) fun found =>
      .of_unrefused (Editor.runUnless_unrefused ignoring (!found) sql)
  | executeUpdate sql =>
    exact .of_unrefused ((Editor.execute_unrefused ignoring sql []).bind fun _ => .pure _)
  | executeScript file? => exact .of_unrefused (Editor.executeScript_unrefused file?)

/-! ## Plans -/

/-- What the operation comes to, if it does not fail, is as `P` says. -/
def Yields {α : Type} (o : Operation α) (P : α → Prop) : Prop :=
  ∀ ⦃l xs a l'⦄, o.Course l xs (.ok a) l' → P a

namespace Yields

variable {α β : Type} {Q : α → Prop} {P : β → Prop}

theorem pure {b : β} (hb : P b) : Yields (pure b) P := by
  intro l xs a l' hc
  obtain rfl := Except.ok.inj (Operation.course_pure_iff.1 hc).2.1
  exact hb

/-- What comes of two operations is as it is said of the second one, given what the first one yields. -/
theorem bind {o : Operation α} {f : α → Operation β} (ho : Yields o Q)
    (hf : ∀ a, Q a → Yields (f a) P) : Yields (o >>= f) P := by
  intro l xs b l' hc
  obtain ⟨a, l₁, ys, zs, ha, hnext, -⟩ := Operation.course_bind_ok hc
  exact hf a (ho ha) hnext

/-- It does not matter what comes first. -/
theorem after {o : Operation α} {f : α → Operation β} (hf : ∀ a, Yields (f a) P) :
    Yields (o >>= f) P :=
  bind (Q := fun _ => True) (fun _ _ _ _ _ => trivial) fun a _ => hf a

/-- What is built is as it is said of everything that can be built. -/
theorem built {made : Except BuildError β} (h : ∀ b, made = .ok b → P b) :
    Yields (Operation.built made) P := by
  cases made with
  | error reason => exact fun _ _ _ _ hc => by cases (Operation.course_throw_iff.1 hc).2.1
  | ok b => exact .pure (h b rfl)

end Yields

/-- On a connection, the operation makes a plan by look-ups alone, and carries out the plan if it was not
    refused. A plan is as `Complete` says, and to carry it out refuses nothing. -/
structure PlannedAhead {α β σ : Type} (c : Connection σ) (learned : Option CaseRule) (s : σ)
    (plan : Operation α) (Complete : α → Prop) (carryOut : α → Operation β) (o : Operation β) :
    Prop where
  looksUp : ∀ x ∈ (plan.transcript c learned s).exchanges, x.request.isLookup = true
  refused : ∀ f, (plan.transcript c learned s).result.1 = .error f →
    (o.transcript c learned s).result.1 = .error f ∧
      (o.transcript c learned s).exchanges = (plan.transcript c learned s).exchanges
  complete : ∀ a, (plan.transcript c learned s).result.1 = .ok a → Complete a
  carriedOut : ∀ a, (plan.transcript c learned s).result.1 = .ok a →
    let planned := plan.transcript c learned s
    let done := (carryOut a).transcript c planned.result.2 planned.state
    (o.transcript c learned s).exchanges = planned.exchanges ++ done.exchanges ∧
      (o.transcript c learned s).result = done.result ∧
        ∀ reason, done.result.1 ≠ .error (.build reason)

/-- An operation that makes a plan and then carries it out is planned ahead. -/
theorem PlannedAhead.of_bind {α β σ : Type} {c : Connection σ} {learned : Option CaseRule} {s : σ}
    {plan : Operation α} {Complete : α → Prop} {carryOut : α → Operation β} {o : Operation β}
    (heq : o = plan >>= carryOut) (hplan : LooksUp plan) (hcomplete : Yields plan Complete)
    (hcarry : ∀ a, Unrefused (carryOut a)) :
    PlannedAhead c learned s plan Complete carryOut o where
  looksUp := hplan (plan.transcript_course c learned s)
  refused f hf := by
    rw [heq, Operation.transcript_bind_of_error hf]
    exact ⟨rfl, rfl⟩
  complete a ha := hcomplete (ha ▸ plan.transcript_course c learned s)
  carriedOut a ha := by
    rw [heq, Operation.transcript_bind_of_ok ha]
    exact ⟨rfl, rfl, hcarry a (Operation.transcript_course _ c _ _)⟩

/-- The change brings back all that the column needs, if it is a rebuild. -/
def ColumnChange.Restores (change : ColumnChange) (column : ColumnSpec) : Prop :=
  ∀ plan, change = .rebuild plan → plan.Restores column

/-- The batch adds the column and writes its default, if it has one, in the words of a dialect. -/
def Batch.Backfills (batch : Batch) (dialect : Dialect) (table : String) (column : ColumnSpec) : Prop :=
  ∀ value, column.default? = some value → ∃ (b : Builder) (add fill : String),
    b.dialect = dialect ∧ batch = ⟨[add, fill]⟩ ∧
      b.addClause table { column with nullable := true } = .ok add ∧
        b.backfill table column.name value = .ok fill

namespace Editor

variable (e : Editor) (ignoring : Bool) (table : String) (column : ColumnSpec)

/-- How a column is to be given another type, given its current one. -/
def planTypeChange (current : ColumnType) : Operation ColumnChange :=
  if e.config.databaseType = .oracle ∧ current = .string ∧ column.type = .charArray then
    .rebuild <$> e.build (·.charArrayDetour table column)
  else e.planChange table column

/-- The statements that add a column, and whether it is there already. -/
def planAddition : Operation (Batch × Bool) := do
  let batch ← e.build (·.addColumn table column)
  let found ← e.inspector.columnExists table column.name
  return (batch, found)

/-- Adds the column unless it is there. -/
def applyAddition (plan : Batch × Bool) : Operation Outcome :=
  if plan.2 then return .skipped else runAll ignoring plan.1.statements

theorem changeColumnType_eq_bind (current : ColumnType) :
    e.changeColumnType table current column ignoring =
      e.planTypeChange table column current >>= fun change => applyChange change ignoring := by
  unfold changeColumnType planTypeChange
  split
  · rw [bind_map_left]
    rfl
  · rfl

/-- A column is added by planning the statements and then carrying them out. -/
theorem addColumn_eq_bind :
    e.addColumn table column ignoring = e.planAddition table column >>= applyAddition ignoring := by
  unfold addColumn planAddition
  simp only [bind_assoc, pure_bind]
  rfl

theorem applyAddition_unrefused (plan : Batch × Bool) : Unrefused (applyAddition ignoring plan) := by
  unfold applyAddition
  split
  · exact .pure _
  · exact runAll_unrefused ignoring plan.1.statements

theorem newConnection_unrefused : Unrefused e.newConnection := by
  unfold newConnection
  split
  · exact .database _
  · exact .attempt_bind fun
      | .ok endpoint => .pure endpoint
      | .error error => .database _

theorem planTypeChange_looksUp (current : ColumnType) :
    LooksUp (e.planTypeChange table column current) := by
  unfold planTypeChange
  split
  · rw [← bind_pure_comp]
    exact (e.build_looksUp _).bind fun _ => .pure _
  · exact e.planChange_looksUp table column

theorem planAddition_looksUp : LooksUp (e.planAddition table column) :=
  (e.build_looksUp _).bind fun _ =>
    (e.inspector.columnExists_looksUp table column.name).bind fun _ => .pure _

/-- What is built comes from a builder of the dialect. -/
theorem build_yields {α : Type} (make : Builder → Except BuildError α) :
    Yields (e.build make) fun a => ∃ b : Builder, b.dialect = e.dialect ∧ make b = .ok a := by
  have hbuilder : Yields e.inspector.builder fun b => b.dialect = e.dialect :=
    .after fun _ => .pure rfl
  exact hbuilder.bind fun b hb => .built fun a ha => ⟨b, hb, ha⟩

/-- A change of a column's type has its restorations. -/
theorem planChange_yields : Yields (e.planChange table column) (·.Restores column) := by
  have hmade {b : Builder} {current : SqlType} {keyColumns : List String} {change : ColumnChange}
      (h : b.alterColumn table column current keyColumns = .ok change) : change.Restores column := by
    rintro plan rfl
    unfold Builder.alterColumn at h
    split at h
    · obtain ⟨_, _, h⟩ := Builder.map_ok h
      cases h
    · obtain ⟨plan, hplan, ⟨⟩⟩ := Builder.map_ok h
      exact (Builder.rebuildColumn_parts hplan).restores
  refine .after fun builder => ?_
  split
  · exact .built fun _ => hmade
  · exact .after fun _ => .after fun _ => .after fun _ => .built fun _ => hmade

/-- A planned rebuild restores what the column description states. -/
theorem planTypeChange_yields (current : ColumnType) :
    Yields (e.planTypeChange table column current) (·.Restores column) := by
  unfold planTypeChange
  split
  · rw [← bind_pure_comp]
    refine (e.build_yields _).bind fun plan ⟨b, _, hplan⟩ => .pure ?_
    rintro _ ⟨⟩
    exact (Builder.rebuildColumn_parts hplan).restores
  · exact e.planChange_yields table column

/-- The planned statements add the column and fill it with its default. -/
theorem planAddition_yields :
    Yields (e.planAddition table column) (·.1.Backfills e.dialect table column) := by
  refine (e.build_yields _).bind fun batch ⟨b, hdialect, hbatch⟩ => .after fun found => .pure ?_
  intro value hvalue
  obtain ⟨add, fill, hstatements, hadd, hfill⟩ := Builder.addColumn_of_default hbatch hvalue
  exact ⟨b, add, fill, hdialect, hstatements, hadd, hfill⟩

end Editor

/-! ## Calls -/

/-- A call that is refused has only looked things up, on every connection. What takes several statements
    has its whole plan before it sends the first one, and what is asked for as it stands is never
    refused. -/
theorem Call.perform_malformed {σ : Type} (e : Editor) (c : Connection σ)
    (learned : Option CaseRule) (s : σ) :
    (∀ (call : Call) (reason : BuildError),
      ((call.perform e).transcript c learned s).result.1 = .error (.build reason) →
        ∀ x ∈ ((call.perform e).transcript c learned s).exchanges, x.request.isLookup = true) ∧
      (∀ table column ignoring,
        PlannedAhead c learned s (e.planChange table column) (·.Restores column)
          (Editor.applyChange · ignoring) (e.alterColumn table column ignoring)) ∧
      (∀ table current column ignoring,
        PlannedAhead c learned s (e.planTypeChange table column current) (·.Restores column)
          (Editor.applyChange · ignoring) (e.changeColumnType table current column ignoring)) ∧
      (∀ table column ignoring,
        PlannedAhead c learned s (e.planAddition table column)
          (·.1.Backfills e.dialect table column) (Editor.applyAddition ignoring)
          (e.addColumn table column ignoring)) ∧
      ∀ reason : BuildError,
        (∀ sql, ((Editor.executeSelect sql).transcript c learned s).result.1 ≠ .error (.build reason)) ∧
          (e.newConnection.transcript c learned s).result.1 ≠ .error (.build reason) ∧
            (Editor.close.transcript c learned s).result.1 ≠ .error (.build reason) := by
  refine ⟨fun call reason hresult => ?_, fun table column ignoring => ?_,
    fun table current column ignoring => ?_, fun table column ignoring => ?_,
    fun reason => ⟨fun sql => ?_, ?_, ?_⟩⟩
  · have hprudent : Prudent (call.perform e) := by
      cases call with
      | edit change ignoring => exact change.perform_prudent e ignoring
      | question q => exact q.answer_prudent e.inspector
    exact hprudent ((call.perform e).transcript_course c learned s) reason hresult
  · exact .of_bind rfl (e.planChange_looksUp table column) (e.planChange_yields table column)
      (Editor.applyChange_unrefused ignoring)
  · exact .of_bind (e.changeColumnType_eq_bind ignoring table column current)
      (e.planTypeChange_looksUp table column current) (e.planTypeChange_yields table column current)
      (Editor.applyChange_unrefused ignoring)
  · exact .of_bind (e.addColumn_eq_bind ignoring table column) (e.planAddition_looksUp table column)
      (e.planAddition_yields table column) (Editor.applyAddition_unrefused ignoring)
  · exact Unrefused.request _ (Operation.transcript_course _ c learned s) reason
  · exact e.newConnection_unrefused (Operation.transcript_course _ c learned s) reason
  · exact Unrefused.request _ (Operation.transcript_course _ c learned s) reason

/-! ## A column of bytes without a key -/

namespace Catalog

/-- A table that has a column of bytes and no primary key. -/
def keyless : Catalog where
  rule := .verbatim
  columns := [⟨"T", "B", 1, "BLOB", .blob, true, none, none⟩]

/-- An editor of a dialect that cannot compare large objects. -/
def keylessEditor : Editor where
  inspector := ⟨⟨"driver", "product", true⟩, .derby, { quoted := true }⟩
  config := { driver := "driver", url := "url" }

/-- The column is to hold text. -/
def keylessTarget : ColumnSpec where
  name := "B"
  type := .charArray

end Catalog

open Catalog in
/-- Its rows cannot be told apart, and this is found out by look-ups. -/
theorem Call.perform_malformed_keyless :
    let t := ((Call.edit (.alterColumn "T" keylessTarget) true).perform keylessEditor).transcript
      Catalog.connection none keyless
    t.result.1 = .error (.build (.unsupported "binary to text copy without key columns" .derby)) ∧
      ∀ x ∈ t.exchanges, x.request.isLookup = true := by
  intro t
  have hresult : t.result.1 =
      .error (.build (.unsupported "binary to text copy without key columns" .derby)) := by decide +kernel
  exact ⟨hresult, (perform_malformed keylessEditor Catalog.connection none keyless).1
    (.edit (.alterColumn "T" keylessTarget) true) _ hresult⟩

end SchemaChange
