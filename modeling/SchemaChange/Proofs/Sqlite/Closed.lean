import SchemaChange.Proofs.Call.Session
import SchemaChange.Sqlite.Connection

/-!
# Closed connections to SQLite

A closed connection stays closed, and what needs the database comes to nothing with it. Only a few
requests need none (`Request.needsDatabase`), the one for the case rule among them, so that an operation
may get under way; but whatever is asked of an editor, it comes to a request that is refused, or fails
before that because it is malformed (`Refused`).

* `answers_closed`: what a closed connection answers, and that it stays as it is;
* `session_closed`: what is left of an editor once its connection has been closed.
-/

namespace SchemaChange

/-- Whether a request needs the database that is connected to. -/
def Request.needsDatabase : Request → Bool
  | .connect _ | .currentCatalog | .identifierCase | .close => false
  | _ => true

namespace Sqlite

variable {δ α β : Type} {engine : Engine δ} {s s' : Session δ} {l l' : Option CaseRule}
  {xs : List Exchange}

/-- The error of everything that a closed connection refuses. -/
def closedError : DatabaseError :=
  .connection "connection is closed"

/-! ## What is answered -/

/-- The exchange is as a closed connection makes it. -/
def AnsweredClosed : Exchange → Prop
  | ⟨.connect _, _⟩ => True
  | ⟨.currentCatalog, reply⟩ => reply = .ok (some "main")
  | ⟨.identifierCase, reply⟩ => reply = .ok .verbatim
  | ⟨.close, reply⟩ => reply = .ok ()
  | ⟨_, reply⟩ => reply = .error closedError

/-- What needs the database is answered by the error of a closed connection. -/
theorem AnsweredClosed.reply_eq {q : Request} {reply : q.Reply} (h : AnsweredClosed ⟨q, reply⟩)
    (hq : q.needsDatabase = true) : reply = .error closedError := by
  cases q <;> first | exact h | cases hq

/-- A closed connection answers as one, and stays as it is. -/
theorem answer_closed (engine : Engine δ) (h : s.closed = true) (q : Request) :
    (answer engine s q).2 = s ∧ AnsweredClosed ⟨q, (answer engine s q).1⟩ := by
  obtain ⟨data, closed⟩ := s
  obtain rfl : closed = true := h
  cases q <;> exact ⟨rfl, by trivial⟩

/-- A closed connection stays closed. -/
theorem answers_closed (h : (connection engine).Answers s xs s') (hs : s.closed = true) :
    s' = s ∧ ∀ x ∈ xs, AnsweredClosed x := by
  induction h with
  | nil s => exact ⟨rfl, List.forall_mem_nil _⟩
  | @cons s s' q xs _ ih =>
    obtain ⟨hstays, hanswered⟩ := answer_closed engine hs q
    obtain ⟨rfl, hxs⟩ := ih ((congrArg Session.closed hstays).trans hs)
    exact ⟨hstays, List.forall_mem_cons.2 ⟨hanswered, hxs⟩⟩

/-- Whatever was asked along with it, to close a connection closes it. -/
theorem answers_close (h : (connection engine).Answers s xs s')
    (hclose : ∃ x ∈ xs, x.request = .close) : s'.closed = true := by
  induction h with
  | nil s =>
    obtain ⟨x, hx, _⟩ := hclose
    exact absurd hx List.not_mem_nil
  | @cons s s' q xs hxs ih =>
    by_cases hrest : ∃ x ∈ xs, x.request = .close
    · exact ih hrest
    · obtain ⟨x, hx, hrequest⟩ := hclose
      rcases List.mem_cons.1 hx with rfl | hx
      · obtain rfl : q = .close := hrequest
        obtain ⟨rfl, _⟩ := answers_closed hxs rfl
        rfl
      · exact absurd ⟨x, hx, hrequest⟩ hrest

/-- Whatever is asked on a closed connection is answered so. -/
theorem transcript_answeredClosed (o : Operation α) (l : Option CaseRule) (hs : s.closed = true) :
    ∀ x ∈ (o.transcript (connection engine) l s).exchanges, AnsweredClosed x :=
  (answers_closed (o.transcript_answers (connection engine) l s) hs).2

/-- Names are stored as they are written, whether the connection is open or closed. -/
theorem answers_rule? (h : (connection engine).Answers s xs s') :
    (xs.findSome? Exchange.rule?).getD .verbatim = .verbatim := by
  induction h with
  | nil s => rfl
  | @cons s s' q xs _ ih => cases q <;> first | rfl | exact ih

/-! ## What is refused -/

/-- The request is malformed, or the connection is closed. -/
def MalformedOrClosed (f : Failure) : Prop :=
  f.isBuild = true ∨ f = .database closedError

/-- On a closed connection, the operation fails in no other way. -/
def Idle (o : Operation α) : Prop :=
  ∀ ⦃l xs f l'⦄, o.Course l xs (.error f) l' → (∀ x ∈ xs, AnsweredClosed x) → MalformedOrClosed f

/-- On a closed connection, the operation fails, and in no other way. -/
def Refused (o : Operation α) : Prop :=
  ∀ ⦃l xs r l'⦄, o.Course l xs r l' → (∀ x ∈ xs, AnsweredClosed x) →
    ∃ f, r = .error f ∧ MalformedOrClosed f

namespace Idle

theorem pure (a : α) : Idle (pure a) := by
  intro l xs f l' hc _
  cases (Operation.course_pure_iff.1 hc).2.1

theorem built (made : Except BuildError α) : Idle (Operation.built made) := by
  intro l xs f l' hc _
  have hf := (Operation.course_built_iff.1 hc).2.1
  cases made with
  | ok a => cases hf
  | error e =>
    obtain rfl := Except.error.inj hf
    exact .inl rfl

/-- Operations that are idle are so one after the other. -/
theorem bind {o : Operation α} {f : α → Operation β} (ho : Idle o) (hf : ∀ a, Idle (f a)) :
    Idle (o >>= f) := by
  intro l xs e l' hc hxs
  rcases Operation.course_bind_iff.1 hc with ⟨a, l₁, ys, zs, _, hnext, rfl⟩ | ⟨e', hfail, he⟩
  · exact hf a hnext fun z hz => hxs z (List.mem_append_right ys hz)
  · obtain rfl := Except.error.inj he
    exact ho hfail hxs

/-- The name of the current catalog is known without the database. -/
theorem currentCatalog (context : String) : Idle (Operation.lookUp context .currentCatalog) := by
  intro l xs f l' hc hxs
  obtain ⟨reply, rfl, _, hf⟩ := Operation.course_lookUp_iff.1 hc
  obtain rfl : reply = .ok (some "main") := hxs _ List.mem_cons_self
  cases hf

end Idle

namespace Refused

/-- What is refused first. -/
theorem first {o : Operation α} (ho : Refused o) (f : α → Operation β) : Refused (o >>= f) := by
  intro l xs r l' hc hxs
  rcases Operation.course_bind_iff.1 hc with ⟨a, l₁, ys, zs, ha, _, rfl⟩ | ⟨e, hfail, rfl⟩
  · obtain ⟨e, he, _⟩ := ho ha fun y hy => hxs y (List.mem_append_left zs hy)
    cases he
  · obtain ⟨e', he, hrefusal⟩ := ho hfail hxs
    obtain rfl := Except.error.inj he
    exact ⟨e, rfl, hrefusal⟩

/-- What is refused in the end. -/
theorem after {o : Operation α} {f : α → Operation β} (ho : Idle o) (hf : ∀ a, Refused (f a)) :
    Refused (o >>= f) := by
  intro l xs r l' hc hxs
  rcases Operation.course_bind_iff.1 hc with ⟨a, l₁, ys, zs, _, hnext, rfl⟩ | ⟨e, hfail, rfl⟩
  · exact hf a hnext fun z hz => hxs z (List.mem_append_right ys hz)
  · exact ⟨e, rfl, ho hfail hxs⟩

theorem build (e : BuildError) : Refused (throw (.build e) : Operation α) := by
  intro l xs r l' hc _
  obtain ⟨_, rfl, _⟩ := Operation.course_throw_iff.1 hc
  exact ⟨_, rfl, .inl rfl⟩

/-- A look-up that needs the database fails. -/
theorem lookUp (context : String) {q : Request} (hq : q.needsDatabase = true) :
    Refused (Operation.lookUp context q) := by
  intro l xs r l' hc hxs
  obtain ⟨reply, rfl, _, rfl⟩ := Operation.course_lookUp_iff.1 hc
  rw [(hxs _ List.mem_cons_self).reply_eq hq]
  exact ⟨_, rfl, .inr rfl⟩

/-- On a closed connection a refused operation fails. -/
theorem transcript {o : Operation α} (h : Refused o) (l : Option CaseRule) (hs : s.closed = true) :
    ∃ f, (o.transcript (connection engine) l s).result.1 = .error f ∧ MalformedOrClosed f :=
  h (o.transcript_course (connection engine) l s) (transcript_answeredClosed o l hs)

/-- A statement fails also where rejections are ignored: that the connection is closed is none. -/
theorem execute (sql : String) (params : List Value) (ignoring : Bool) :
    Refused (Editor.execute sql params ignoring) := by
  intro l xs r l' hc hxs
  obtain ⟨reply, rfl, _, rfl⟩ := Editor.course_execute_iff.1 hc
  obtain rfl : reply = .error closedError := hxs _ List.mem_cons_self
  -- The error is no rejection, so it is not ignored.
  refine ⟨.database closedError, ?_, .inr rfl⟩
  exact if_neg (by cases ignoring <;> exact Bool.false_ne_true)

theorem run (sql : String) (ignoring : Bool) : Refused (Editor.run sql ignoring) :=
  .first (.execute sql [] ignoring) _

/-- A copy fails with its first statement or its query. -/
theorem applyCopy (copy : Copy) (ignoring : Bool) : Refused (Editor.applyCopy copy ignoring) := by
  cases copy with
  | assign sql => exact .run sql ignoring
  | decode select update keyColumns =>
    intro l xs r l' hc hxs
    obtain ⟨reply, ys, rfl, hnext⟩ := Operation.course_attempt_bind_iff.1 hc
    obtain rfl : reply = .error closedError := hxs _ List.mem_cons_self
    have hnot : ¬(ignoring && closedError.isExecution) = true := by
      cases ignoring <;> exact Bool.false_ne_true
    dsimp only at hnext
    rw [if_neg hnot] at hnext
    obtain ⟨_, rfl, _⟩ := Operation.course_throw_iff.1 hnext
    exact ⟨_, rfl, .inr rfl⟩

/-- A rebuild fails with its first statement. -/
theorem applyRebuild (plan : Rebuild) (ignoring : Bool) :
    Refused (Editor.applyRebuild plan ignoring) :=
  .first (.run plan.addTemporary ignoring) _

theorem applyChange (change : ColumnChange) (ignoring : Bool) :
    Refused (Editor.applyChange change ignoring) := by
  cases change with
  | inPlace sql => exact .run sql ignoring
  | rebuild plan => exact .applyRebuild plan ignoring

end Refused

/-- What needs the database comes to the same error, however it is asked. -/
theorem request_closed {q : Request} {r : Except Failure q.Answer} (hq : q.needsDatabase = true)
    (hc : (Operation.request q).Course l xs r l') (hxs : ∀ x ∈ xs, AnsweredClosed x) :
    r = .error (.database closedError) := by
  obtain ⟨reply, ys, rfl, hnext⟩ := Operation.course_attempt_bind_iff.1 hc
  rw [(hxs _ List.mem_cons_self).reply_eq hq] at hnext
  exact (Operation.course_throw_iff.1 hnext).2.1

/-! ### Questions -/

section Questions

variable {i : Inspector} (hi : i.endpoint.hasCatalog = true)

include hi

/-- The case rule is always told. -/
theorem course_caseRule_closed {r : Except Failure CaseRule} (hc : i.caseRule.Course l xs r l')
    (hxs : ∀ x ∈ xs, AnsweredClosed x) : r = .ok ((i.options.case?.or l).getD .verbatim) := by
  have hc := Inspector.course_caseRule_iff.1 hc
  split at hc
  · rename_i rule hknown
    rw [hknown]
    exact hc.2.1
  · rename_i hunknown
    obtain ⟨_, hask⟩ := Inspector.course_inCatalog_iff.1 hc.1
    rw [if_pos hi] at hask
    obtain ⟨reply, rfl, rfl⟩ := hask
    obtain rfl : reply = .ok .verbatim := hxs _ List.mem_cons_self
    rw [hunknown]
    rfl

/-- The case rule is known without the database. -/
theorem caseRule_idle : Idle i.caseRule := by
  intro l xs f l' hc hxs
  cases course_caseRule_closed hi hc hxs

theorem builder_idle : Idle i.builder :=
  (caseRule_idle hi).bind fun _ => .pure _

theorem fold_idle (name : String) : Idle (i.fold name) :=
  (caseRule_idle hi).bind fun _ => .pure _

/-- A request to the catalog fails if it needs the database. -/
theorem inCatalog_refused (context : String) {q : Request} (hq : q.needsDatabase = true) :
    Refused (i.inCatalog context q) := by
  intro l xs r l' hc hxs
  obtain ⟨_, hc⟩ := Inspector.course_inCatalog_iff.1 hc
  rw [if_pos hi] at hc
  obtain ⟨reply, rfl, rfl⟩ := hc
  rw [(hxs _ List.mem_cons_self).reply_eq hq]
  exact ⟨_, rfl, .inr rfl⟩

theorem tableExists_refused (table : String) : Refused (i.tableExists table) :=
  .after (fold_idle hi table) fun _ => .first (inCatalog_refused hi _ rfl) _

/-- No columns are listed, of one table or of all. -/
theorem columns_refused (table? : Option String) : Refused (i.columns table?) := by
  cases table? with
  | none => exact .after (.pure _) fun _ => inCatalog_refused hi _ rfl
  | some table =>
    exact .after ((fold_idle hi table).bind fun _ => .pure _) fun _ => inCatalog_refused hi _ rfl

theorem columnInfo?_refused (table column : String) : Refused (i.columnInfo? table column) :=
  .after (caseRule_idle hi) fun _ => .first (inCatalog_refused hi _ rfl) _

theorem columnExists_refused (table column : String) : Refused (i.columnExists table column) :=
  .first (columnInfo?_refused hi table column) _

theorem requireColumn_refused (table column : String) : Refused (i.requireColumn table column) :=
  .first (columnInfo?_refused hi table column) _

theorem columnSqlType_refused (table column : String) : Refused (i.columnSqlType table column) :=
  .first (requireColumn_refused hi table column) _

theorem primaryKeyColumns_refused (table : String) : Refused (i.primaryKeyColumns table) :=
  .after (fold_idle hi table) fun _ => .first (inCatalog_refused hi _ rfl) _

theorem importedForeignKeys_refused (table : String) : Refused (i.importedForeignKeys table) :=
  .after (fold_idle hi table) fun _ => inCatalog_refused hi _ rfl

/-- The question for a foreign key may be malformed, and its look-up fails. -/
theorem hasForeignKey_refused (table referencedTable : String) (names references : List String) :
    Refused (i.hasForeignKey table referencedTable names references) := by
  unfold Inspector.hasForeignKey
  dsimp only
  split
  · exact .first (.build _) _
  split
  · exact .first (.build _) _
  · exact .after (caseRule_idle hi) fun _ => .first (inCatalog_refused hi _ rfl) _

/-- The catalog the connection is attached to is told, and the statement may be malformed, but the query
    is refused. -/
theorem hasConstraint_refused (table name : String) : Refused (i.hasConstraint table name) :=
  .after (builder_idle hi) fun _ => .after (.currentCatalog _) fun _ => .after (.built _) fun _ =>
    .first (.lookUp _ rfl) _

theorem indexExists_refused (table name : String) : Refused (i.indexExists table name) :=
  .after (fold_idle hi table) fun _ => .first (inCatalog_refused hi _ rfl) _

theorem tableHasData_refused (table : String) : Refused (i.tableHasData table) :=
  .after (builder_idle hi) fun _ => .after (.built _) fun _ => .first (.lookUp _ rfl) _

/-- Every question fails but those that are answered from the case rule. -/
theorem answer_refused (q : Question) (hrule : q ≠ .caseRule) (hbuilder : q ≠ .builder) :
    Refused (q.answer i) := by
  cases q with
  | caseRule => exact absurd rfl hrule
  | builder => exact absurd rfl hbuilder
  | tableExists table => exact tableExists_refused hi table
  | columns table? => exact columns_refused hi table?
  | columnInfo table column => exact columnInfo?_refused hi table column
  | columnExists table column => exact columnExists_refused hi table column
  | columnsExist table names => exact .first (columns_refused hi (some table)) _
  | columnSqlType table column => exact columnSqlType_refused hi table column
  | isColumnNullable table column => exact .first (requireColumn_refused hi table column) _
  | columnValueKind table column => exact .first (columnSqlType_refused hi table column) _
  | primaryKeyColumns table => exact primaryKeyColumns_refused hi table
  | hasPrimaryKey table column? => exact .first (primaryKeyColumns_refused hi table) _
  | importedForeignKeys table => exact importedForeignKeys_refused hi table
  | hasForeignKeyNamed table name => exact .first (importedForeignKeys_refused hi table) _
  | hasForeignKey table referencedTable names references =>
    exact hasForeignKey_refused hi table referencedTable names references
  | hasConstraint table name => exact hasConstraint_refused hi table name
  | indexExists table name => exact indexExists_refused hi table name
  | tableHasData table => exact tableHasData_refused hi table

end Questions

/-! ### Edits -/

section Edits

variable {e : Editor} (he : e.inspector.endpoint.hasCatalog = true) (ignoring : Bool)

include he

/-- Statements are built as on an open connection. -/
theorem build_idle (make : Builder → Except BuildError α) : Idle (e.build make) :=
  (builder_idle he).bind fun _ => .built _

/-- What is sent is refused. -/
theorem build_run_refused (make : Builder → Except BuildError String) :
    Refused (e.build make >>= fun sql => Editor.run sql ignoring) :=
  .after (build_idle he make) fun sql => .run sql ignoring

/-- What is looked up before anything is sent is refused. -/
theorem build_first_refused {o : Operation β} (ho : Refused o) (make : Builder → Except BuildError α)
    {γ : Type} (f : α → β → Operation γ) : Refused (e.build make >>= fun a => o >>= f a) :=
  .after (build_idle he make) fun a => .first ho (f a)

/-- A change of type fails over its look-ups, or over its first statement. -/
theorem alterColumn_refused (table : String) (column : ColumnSpec) :
    Refused (e.alterColumn table column ignoring) := by
  unfold Editor.alterColumn Editor.planChange
  by_cases h : e.dialect.changesColumnTypes
  · simp only [h, if_true]
    exact .after ((builder_idle he).bind fun _ => .built _) fun change => .applyChange change ignoring
  · simp only [h]
    exact .first (.after (builder_idle he) fun _ => .after (.built _) fun _ =>
      .first (columnSqlType_refused he table column.name) _) _

theorem changeColumnType_refused (table : String) (current : ColumnType) (column : ColumnSpec) :
    Refused (e.changeColumnType table current column ignoring) := by
  unfold Editor.changeColumnType
  split
  · exact .after (build_idle he _) fun plan => .applyRebuild plan ignoring
  · exact alterColumn_refused he ignoring table column

theorem addForeignKey_refused (c : ConstraintSpec) : Refused (e.addForeignKey c ignoring) := by
  unfold Editor.addForeignKey
  split
  · exact build_first_refused he (hasForeignKey_refused he _ _ _ _) _ _
  · exact .build _

theorem addConstraint_refused (c : ConstraintSpec) : Refused (e.addConstraint c ignoring) := by
  unfold Editor.addConstraint
  split
  · exact build_first_refused he (.first (primaryKeyColumns_refused he c.table) _) _ _
  · exact build_first_refused he (hasConstraint_refused he c.table c.name) _ _
  · exact addForeignKey_refused he ignoring c

/-- A sequence is created without a look-up, and the statement fails. -/
theorem createSequence_refused (hsequences : e.dialect.hasSequences = true) (name : String)
    (start increment : Int64) : Refused (e.createSequence name start increment) := by
  unfold Editor.createSequence
  rw [if_pos hsequences]
  exact build_run_refused he true _

theorem dropSequence_refused (hsequences : e.dialect.hasSequences = true) (name : String) :
    Refused (e.dropSequence name) := by
  unfold Editor.dropSequence
  rw [if_pos hsequences]
  exact build_run_refused he true _

/-- Every edit fails but a script, whose statements fail and are counted. -/
theorem perform_refused (hsequences : e.dialect.hasSequences = true) (edit : Edit)
    (hscript : ∀ file?, edit ≠ .executeScript file?) : Refused (edit.perform e ignoring) := by
  cases edit with
  | createTable table => exact build_first_refused he (tableExists_refused he table.name) _ _
  | dropTable table => exact build_first_refused he (tableExists_refused he table) _ _
  | emptyTable table => exact build_run_refused he ignoring _
  | createIndex table name columns unique =>
    exact build_first_refused he (indexExists_refused he table name) _ _
  | dropIndex table name => exact build_first_refused he (indexExists_refused he table name) _ _
  | createSequence name start increment =>
    exact createSequence_refused he hsequences name start increment
  | dropSequence name => exact dropSequence_refused he hsequences name
  | addColumn table column =>
    exact build_first_refused he (columnExists_refused he table column.name) _ _
  | dropColumn table column => exact build_first_refused he (columnExists_refused he table column) _ _
  | renameColumn table oldName column => exact build_run_refused he ignoring _
  | alterColumn table column => exact alterColumn_refused he ignoring table column
  | changeColumnType table current column =>
    exact changeColumnType_refused he ignoring table current column
  | setColumnNullable table column nullable => exact .first (requireColumn_refused he table column) _
  | copyColumn table source target =>
    exact .after (builder_idle he) fun _ => .first (columnSqlType_refused he table source) _
  | addConstraint c => exact addConstraint_refused he ignoring c
  | addPrimaryKey table name columns =>
    exact build_first_refused he (.first (primaryKeyColumns_refused he table) _) _ _
  | addUnique table name columns =>
    exact build_first_refused he (hasConstraint_refused he table name) _ _
  | addForeignKey c => exact addForeignKey_refused he ignoring c
  | dropForeignKey table name =>
    exact build_first_refused he (.first (importedForeignKeys_refused he table) _) _ _
  | dropUnique table name => exact build_first_refused he (hasConstraint_refused he table name) _ _
  | dropPrimaryKey table name column? =>
    exact build_first_refused he (.first (primaryKeyColumns_refused he table) _) _ _
  | insertRow table columns values =>
    exact .after (build_idle he _) fun _ => .first (.execute _ _ ignoring) _
  | updateTable table column value condition? =>
    exact .after (build_idle he _) fun _ => .first (.execute _ _ ignoring) _
  | executeStatement sql => exact .run sql ignoring
  | executeIfColumn sql table column => exact .first (columnExists_refused he table column) _
  | executeUpdate sql => exact .first (.execute sql [] ignoring) _
  | executeScript file? => exact absurd rfl (hscript file?)

end Edits

/-- A script runs only as far as it has no statement. -/
theorem runScript_closed {script : String} {r : Except Failure Editor.ScriptSummary}
    (hc : (Editor.runScript script).Course l xs r l') (hxs : ∀ x ∈ xs, AnsweredClosed x) :
    r = if Script.split script = [] then .ok {} else .error (.database closedError) := by
  unfold Editor.runScript at hc
  cases h : Script.split script with
  | nil =>
    rw [h] at hc
    rw [if_pos rfl]
    exact (Operation.course_pure_iff.1 hc).2.1
  | cons sql rest =>
    rw [h] at hc
    rw [if_neg (List.cons_ne_nil sql rest)]
    rcases Editor.course_execute_bind hc with ⟨n, ys, rfl, _⟩ | ⟨e, ys, rfl, hstop⟩
    · have hok : AnsweredClosed ⟨.execute sql [], .ok n⟩ := hxs _ List.mem_cons_self
      cases hok
    · have herror : AnsweredClosed ⟨.execute sql [], .error e⟩ := hxs _ List.mem_cons_self
      obtain rfl := Except.error.inj herror
      exact hstop.2.1

/-! ## Sessions -/

/-- Where a connection is closed, it is asked to close. -/
theorem session_asks_close {e : Editor} {us : List Use} {r : Except Failure Unit}
    (hc : (e.session us).Course l xs r l') (hclose : .close ∈ us) :
    ∃ x ∈ xs, x.request = .close := by
  induction us generalizing l xs with
  | nil => exact absurd hclose List.not_mem_nil
  | cons u us ih =>
    obtain ⟨_, _, ys, _, hu, hrest, rfl⟩ := Editor.course_session_cons hc
    rcases List.mem_cons.1 hclose with rfl | hclose
    · obtain ⟨reply, ys, rfl, _⟩ := Operation.course_attempt_bind_iff.1 hu
      exact ⟨_, List.mem_cons_self, rfl⟩
    · obtain ⟨x, hx, hrequest⟩ := ih hrest hclose
      exact ⟨x, List.mem_append_right ys hx, hrequest⟩

/-- What a closed connection leaves of an editor that goes by what it has `learned`. -/
structure StaysClosed (engine : Engine δ) (e : Editor) (learned : Option CaseRule) (s : Session δ) :
    Prop where
  closed : s.closed = true
  /-- It may be closed again. -/
  close : (Editor.close.transcript (connection engine) learned s).result.1 = .ok ()
  /-- The case rule is still told. -/
  caseRule : (e.inspector.caseRule.transcript (connection engine) learned s).result.1 =
    .ok (e.inspector.options.case?.getD .verbatim)
  select : ∀ sql, ((Editor.executeSelect sql).transcript (connection engine) learned s).result.1 =
    .error (.database closedError)
  question : ∀ q : Question, q ≠ .caseRule → q ≠ .builder →
    ∃ f, ((q.answer e.inspector).transcript (connection engine) learned s).result.1 = .error f ∧
      MalformedOrClosed f
  edit : ∀ (edit : Edit) (ignoring : Bool), (∀ file?, edit ≠ .executeScript file?) →
    ∃ f, ((edit.perform e ignoring).transcript (connection engine) learned s).result.1 = .error f ∧
      MalformedOrClosed f
  /-- A script fails at its first statement. -/
  script : ∀ file? text, file?.bind Text.strictText? = some text →
    ((Editor.executeScript file?).transcript (connection engine) learned s).result.1 =
      if Script.split (String.ofList text) = [] then .ok {} else .error (.database closedError)
  unreadable : ∀ file?, file?.bind Text.strictText? = none → ∃ reason,
    ((Editor.executeScript file?).transcript (connection engine) learned s).result.1 =
      .error (.database (.file reason))

/-- It is enough that the connection is closed, and that no rule was learned but its own. -/
theorem StaysClosed.of_closed {e : Editor} {learned : Option CaseRule}
    (hcatalog : e.inspector.endpoint.hasCatalog = true) (hsequences : e.dialect.hasSequences = true)
    (hclosed : s.closed = true) (hlearned : learned.getD .verbatim = .verbatim) :
    StaysClosed engine e learned s := by
  have hcourse {α : Type} (o : Operation α) := o.transcript_course (connection engine) learned s
  have hxs {α : Type} (o : Operation α) :
      ∀ x ∈ (o.transcript (connection engine) learned s).exchanges, AnsweredClosed x :=
    transcript_answeredClosed o learned hclosed
  refine
    { closed := hclosed
      close := rfl
      caseRule := ?caseRule
      select := fun sql => request_closed rfl (hcourse _) (hxs _)
      question := fun q hrule hbuilder =>
        (answer_refused hcatalog q hrule hbuilder).transcript learned hclosed
      edit := fun edit ignoring hscript =>
        (perform_refused hcatalog ignoring hsequences edit hscript).transcript learned hclosed
      script := ?script
      unreadable := ?unreadable }
  case caseRule =>
    rw [course_caseRule_closed hcatalog (hcourse _) (hxs _)]
    cases e.inspector.options.case? with
    | none => exact congrArg Except.ok hlearned
    | some rule => rfl
  case script =>
    intro file? text htext
    obtain ⟨bytes, rfl, hbytes⟩ := Option.bind_eq_some_iff.1 htext
    have hrun : Editor.executeScript (some bytes) = Editor.runScript (String.ofList text) := by
      rw [Editor.executeScript, hbytes]
    rw [hrun]
    exact runScript_closed (hcourse _) (hxs _)
  case unreadable =>
    intro file? htext
    cases file? with
    | none => exact ⟨_, rfl⟩
    | some bytes =>
      have hbytes : Text.strictText? bytes = none := htext
      rw [Editor.executeScript, hbytes]
      exact ⟨_, rfl⟩

/-- Once its connection has been closed, an editor over SQLite does nothing any more, whatever is done
    with it before and after. -/
theorem session_closed (engine : Engine δ) (config : ConnectionConfig) (options : BuilderOptions)
    (driver? : Option String) (before after : List Use) (s : Session δ) :
    let e := { (Editor.ofEndpoint endpoint config).withOptions options with driver? }
    let t := (e.session (before ++ .close :: after)).transcript (connection engine) none s
    StaysClosed engine e t.result.2 t.state := by
  intro e t
  let all := before ++ .close :: after
  have hcourse := (e.session all).transcript_course (connection engine) none s
  have hanswers := (e.session all).transcript_answers (connection engine) none s
  refine .of_closed rfl rfl (answers_close hanswers ?_) ?_
  · exact session_asks_close hcourse (List.mem_append_right before List.mem_cons_self)
  · rw [(e.session_resolution hcourse).learned]
    exact answers_rule? hanswers

/-- Whether a table has rows cannot be told any more. The case rule is learned on the way. -/
theorem session_closed_tableHasData :
    let config : ConnectionConfig := { driver := "sqlite", url := "sqlite::memory:" }
    let e := { (Editor.ofEndpoint endpoint config).withOptions {} with driver? := some driverName }
    let closed : Session Schema := { data := {}, closed := true }
    StaysClosed declaredOnly e none closed ∧
      (((Question.tableHasData "hosts").answer e.inspector).transcript (connection declaredOnly) none
        closed).result = (.error (.database closedError), some .verbatim) :=
  ⟨session_closed declaredOnly _ {} (some driverName) [] [] { data := {} }, rfl⟩

end Sqlite

end SchemaChange
