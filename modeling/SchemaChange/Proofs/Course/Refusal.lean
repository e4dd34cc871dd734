import SchemaChange.Editor.Call
import SchemaChange.Proofs.Course.Lookup
import SchemaChange.Proofs.Course.Statement

/-!
# Operations that refuse

An operation refuses malformed arguments with a build error. `Prudent` says that it does so before
anything but look-ups was asked for. Two rules carry this over to an operation that goes on after another
one: the first part only looks things up (`Prudent.after`), or the second part refuses nothing
(`Prudent.andThen`). What sends statements refuses nothing (`Unrefused`), as its statements are made.

* `Editor.applyRebuild_unrefused`, `Editor.applyChange_unrefused`: to carry out a plan refuses nothing;
* `Inspector.columnSqlType_looksUp` and the like: what an inspector only looks up;
* `Operation.transcript_bind_of_ok`: what an operation that goes on after another one does with a
  connection.
-/

namespace SchemaChange

variable {α β σ : Type}

/-- The operation asks for nothing but look-ups in the catalog. -/
def LooksUp (o : Operation α) : Prop :=
  o.Asks fun r => r.isLookup = true

/-- The operation refuses nothing: it ends in no build error. -/
def Unrefused (o : Operation α) : Prop :=
  ∀ ⦃l xs r l'⦄, o.Course l xs r l' → ∀ reason, r ≠ .error (.build reason)

/-- The operation has only looked things up where it refuses something. -/
def Prudent (o : Operation α) : Prop :=
  ∀ ⦃l xs r l'⦄, o.Course l xs r l' → ∀ reason, r = .error (.build reason) →
    ∀ x ∈ xs, x.request.isLookup = true

/-- A look-up in the catalog is one whether rows are copied or not. -/
theorem Request.looksUp_of_isLookup {copies : Bool} {r : Request} (h : r.isLookup = true) :
    r.looksUp copies = true := by
  cases r <;> first | exact h | cases h

namespace LooksUp

theorem pure (a : α) : LooksUp (pure a) :=
  Operation.Asks.pure a

theorem fail (f : Failure) : LooksUp (throw f : Operation α) :=
  Operation.Asks.fail f

theorem bind {o : Operation α} {f : α → Operation β} (ho : LooksUp o) (hf : ∀ a, LooksUp (f a)) :
    LooksUp (o >>= f) :=
  Operation.Asks.bind ho hf

/-- To build something asks nothing. -/
theorem built (made : Except BuildError α) : LooksUp (Operation.built made) := by
  cases made with
  | ok a => exact .pure a
  | error reason => exact .fail (.build reason)

theorem lookUp (context : String) {q : Request} (hq : q.isLookup = true) :
    LooksUp (Operation.lookUp context q) :=
  Operation.lookUp_asks hq

/-- A request to the catalog is a look-up, and where there is no catalog nothing is asked. -/
theorem inCatalog {i : Inspector} (context : String) {q : Request} (hq : q.isLookup = true) :
    LooksUp (i.inCatalog context q) :=
  Inspector.inCatalog_asks hq

/-- The question about the case of names is a look-up. -/
theorem caseRule {i : Inspector} : LooksUp i.caseRule :=
  Inspector.caseRule_asks rfl

/-- Whether rows are read besides or not, it has only looked things up. -/
theorem asks {copies : Bool} {o : Operation α} (h : LooksUp o) :
    o.Asks fun r => r.looksUp copies = true :=
  fun _ _ _ _ hc x hx => Request.looksUp_of_isLookup (h hc x hx)

end LooksUp

namespace Unrefused

theorem pure (a : α) : Unrefused (pure a) := by
  intro l xs r l' hc reason
  rw [(Operation.course_pure_iff.1 hc).2.1]
  exact nofun

/-- What a database reports is no build error. -/
theorem database (e : DatabaseError) : Unrefused (throw (.database e) : Operation α) := by
  intro l xs r l' hc reason
  rw [(Operation.course_throw_iff.1 hc).2.1]
  exact nofun

/-- Operations that refuse nothing refuse nothing one after the other. -/
theorem bind {o : Operation α} {f : α → Operation β} (ho : Unrefused o) (hf : ∀ a, Unrefused (f a)) :
    Unrefused (o >>= f) := by
  intro l xs r l' hc reason hr
  rcases Operation.course_bind_iff.1 hc with ⟨a, l₁, ys, zs, _, hnext, rfl⟩ | ⟨e, hfail, rfl⟩
  · exact hf a hnext reason hr
  · exact ho hfail reason (congrArg Except.error (Except.error.inj hr))

/-- One request, with or without what is done with its reply. -/
theorem attempt_bind {q : Request} {f : q.Reply → Operation α} (hf : ∀ reply, Unrefused (f reply)) :
    Unrefused (Operation.attempt q >>= f) := by
  intro l xs r l' hc
  obtain ⟨reply, ys, _, hnext⟩ := Operation.course_attempt_bind_iff.1 hc
  exact hf reply hnext

/-- A request refuses nothing, whatever is replied. -/
theorem request (q : Request) : Unrefused (Operation.request q) :=
  attempt_bind fun
    | .ok _ => .pure _
    | .error _ => .database _

theorem lookUp (context : String) (q : Request) : Unrefused (Operation.lookUp context q) :=
  attempt_bind fun
    | .ok _ => .pure _
    | .error _ => .database _

/-- What sends statements ends with the verdict on them. -/
theorem of_sends {o : Operation Outcome} {ignoring : Bool} {P : List Exchange → Prop}
    (h : Sends o ignoring P) : Unrefused o := by
  intro l xs r l' hc reason hr
  rw [(h hc).2.1, verdict] at hr
  split at hr
  · cases hr
  · split at hr <;> cases hr

end Unrefused

namespace Prudent

/-- An operation that only looks things up is prudent whatever it refuses. -/
theorem of_looksUp {o : Operation α} (h : LooksUp o) : Prudent o :=
  fun _ _ _ _ hc _ _ => h hc

/-- So is one that refuses nothing. -/
theorem of_unrefused {o : Operation α} (h : Unrefused o) : Prudent o :=
  fun _ _ _ _ hc reason hr => absurd hr (h hc reason)

/-- What comes first only looks things up. -/
theorem after {o : Operation α} {f : α → Operation β} (ho : LooksUp o) (hf : ∀ a, Prudent (f a)) :
    Prudent (o >>= f) := by
  intro l xs r l' hc reason hr x hx
  rcases Operation.course_bind_iff.1 hc with ⟨a, l₁, ys, zs, ha, hnext, rfl⟩ | ⟨e, hfail, rfl⟩
  · rcases List.mem_append.1 hx with hx | hx
    · exact ho ha x hx
    · exact hf a hnext reason hr x hx
  · exact ho hfail x hx

/-- What comes next refuses nothing. -/
theorem andThen {o : Operation α} {f : α → Operation β} (ho : Prudent o)
    (hf : ∀ a, Unrefused (f a)) : Prudent (o >>= f) := by
  intro l xs r l' hc reason hr
  rcases Operation.course_bind_iff.1 hc with ⟨a, l₁, ys, zs, _, hnext, rfl⟩ | ⟨e, hfail, rfl⟩
  · exact absurd hr (hf a hnext reason)
  · exact ho hfail reason (congrArg Except.error (Except.error.inj hr))

end Prudent

/-! ## Sending statements -/

namespace Editor

variable (ignoring : Bool)

/-- Statements are sent as they are. -/
theorem execute_unrefused (sql : String) (params : List Value) :
    Unrefused (execute sql params ignoring) := by
  refine .attempt_bind fun reply => ?_
  cases reply with
  | ok n => exact .pure _
  | error e =>
    dsimp only
    split
    · exact .pure _
    · exact .database e

theorem run_unrefused (sql : String) : Unrefused (run sql ignoring) :=
  .of_sends (run_sends sql ignoring)

theorem runUnless_unrefused (done : Bool) (sql : String) :
    Unrefused (runUnless done sql ignoring) := by
  cases done with
  | true => exact .pure _
  | false => exact run_unrefused ignoring sql

theorem runAll_unrefused (sqls : List String) : Unrefused (runAll ignoring sqls) :=
  .of_sends (runAll_sends ignoring sqls)

/-- A copy is a plan that was built before, so that nothing is left to refuse. -/
theorem applyCopy_unrefused (copy : Copy) : Unrefused (applyCopy copy ignoring) :=
  .of_sends (applyCopy_sends copy ignoring)

theorem restore_unrefused (outcome : Outcome) (sqls : List String) :
    Unrefused (restore outcome sqls) := by
  induction sqls generalizing outcome with
  | nil => exact .pure _
  | cons sql rest ih =>
    refine (run_unrefused true sql).bind fun a => ?_
    cases a with
    | failureIgnored => exact ih _
    | applied | skipped | appliedWithoutAttributes => exact ih _

/-- Where an operation goes on only after statements that were not rejected. -/
theorem next_unrefused {o o' : Operation Outcome} (h : Unrefused o) (h' : Unrefused o') :
    Unrefused (o >>= fun a => if a = .failureIgnored then pure .failureIgnored else o') := by
  refine h.bind fun a => ?_
  split
  · exact .pure _
  · exact h'

/-- So is a rebuild. -/
theorem applyRebuild_unrefused (plan : Rebuild) : Unrefused (applyRebuild plan ignoring) :=
  next_unrefused (run_unrefused ignoring plan.addTemporary) <|
    next_unrefused (applyCopy_unrefused ignoring plan.copy) <|
      next_unrefused (runAll_unrefused ignoring [plan.dropOld, plan.rename])
        (restore_unrefused .applied plan.restorations)

/-- A change of type that was planned refuses nothing. -/
theorem applyChange_unrefused (change : ColumnChange) : Unrefused (applyChange change ignoring) := by
  cases change with
  | inPlace sql => exact run_unrefused ignoring sql
  | rebuild plan => exact applyRebuild_unrefused ignoring plan

theorem runCounting_unrefused (summary : ScriptSummary) (sqls : List String) :
    Unrefused (runCounting summary sqls) := by
  induction sqls generalizing summary with
  | nil => exact .pure _
  | cons sql rest ih =>
    exact (execute_unrefused true sql []).bind fun
      | none => ih _
      | some _ => ih _

/-- A script is not built: a file that cannot be read is an error of the database. -/
theorem executeScript_unrefused (file? : Option (List UInt8)) : Unrefused (executeScript file?) := by
  unfold executeScript
  cases file? with
  | none => exact .database _
  | some bytes =>
    dsimp only
    cases Text.strictText? bytes with
    | none => exact .database _
    | some script => exact runCounting_unrefused {} _

end Editor

/-! ## Questions -/

namespace Inspector

variable (i : Inspector)

/-- A builder is made from the case rule. -/
theorem builder_looksUp : LooksUp i.builder :=
  LooksUp.caseRule.bind fun _ => .pure _

theorem fold_looksUp (name : String) : LooksUp (i.fold name) :=
  LooksUp.caseRule.bind fun _ => .pure _

theorem tableExists_looksUp (table : String) : LooksUp (i.tableExists table) :=
  (i.fold_looksUp table).bind fun _ => (LooksUp.inCatalog _ rfl).bind fun _ => .pure _

/-- Columns are looked up, of one table or of all. -/
theorem columns_looksUp (table? : Option String) : LooksUp (i.columns table?) := by
  cases table? with
  | none => exact (LooksUp.pure _).bind fun _ => LooksUp.inCatalog _ rfl
  | some table =>
    exact ((i.fold_looksUp table).bind fun _ => .pure _).bind fun _ => LooksUp.inCatalog _ rfl

theorem columnInfo?_looksUp (table column : String) : LooksUp (i.columnInfo? table column) :=
  LooksUp.caseRule.bind fun _ => (LooksUp.inCatalog _ rfl).bind fun _ => .pure _

theorem columnExists_looksUp (table column : String) : LooksUp (i.columnExists table column) :=
  (i.columnInfo?_looksUp table column).bind fun _ => .pure _

theorem columnsExist_looksUp (table : String) (names : List String) :
    LooksUp (i.columnsExist table names) :=
  (i.columns_looksUp table).bind fun _ => .pure _

/-- A column that is not there is missed by a look-up. -/
theorem requireColumn_looksUp (table column : String) : LooksUp (i.requireColumn table column) :=
  (i.columnInfo?_looksUp table column).bind fun
    | none => .fail _
    | some info => .pure info

theorem columnSqlType_looksUp (table column : String) : LooksUp (i.columnSqlType table column) :=
  (i.requireColumn_looksUp table column).bind fun _ => .pure _

theorem primaryKeyColumns_looksUp (table : String) : LooksUp (i.primaryKeyColumns table) :=
  (i.fold_looksUp table).bind fun _ => (LooksUp.inCatalog _ rfl).bind fun _ => .pure _

theorem hasPrimaryKey_looksUp (table : String) (column? : Option String) :
    LooksUp (i.hasPrimaryKey table column?) :=
  (i.primaryKeyColumns_looksUp table).bind fun _ => .pure _

theorem importedForeignKeys_looksUp (table : String) : LooksUp (i.importedForeignKeys table) :=
  (i.fold_looksUp table).bind fun _ => LooksUp.inCatalog _ rfl

theorem hasForeignKeyNamed_looksUp (table name : String) :
    LooksUp (i.hasForeignKeyNamed table name) :=
  (i.importedForeignKeys_looksUp table).bind fun _ => .pure _

/-- A foreign key is looked for in the catalog alone. -/
theorem hasForeignKey_looksUp (table referencedTable : String) (columns references : List String) :
    LooksUp (i.hasForeignKey table referencedTable columns references) := by
  unfold hasForeignKey
  by_cases hlength : columns.length ≠ references.length
  · simp only [if_pos hlength]
    exact .fail _
  by_cases hempty : columns.isEmpty
  · simp only [if_neg hlength, if_pos hempty]
    exact .fail _
  · simp only [if_neg hlength, if_neg hempty]
    exact LooksUp.caseRule.bind fun _ => (LooksUp.inCatalog _ rfl).bind fun _ => .pure _

theorem indexExists_looksUp (table name : String) : LooksUp (i.indexExists table name) :=
  (i.fold_looksUp table).bind fun _ => (LooksUp.inCatalog _ rfl).bind fun _ => .pure _

end Inspector

/-- An editor builds statements from the case rule, and sends nothing for it. -/
theorem Editor.build_looksUp {α : Type} (e : Editor) (make : Builder → Except BuildError α) :
    LooksUp (e.build make) :=
  e.inspector.builder_looksUp.bind fun _ => .built _

/-! ## With a connection -/

namespace Operation

variable {o : Operation α} {f : α → Operation β} {c : Connection σ} {l : Option CaseRule} {s : σ}

/-- An operation that goes on after another one makes the exchanges of both and ends as the second
    one does. -/
theorem transcript_bind_of_ok {a : α} (h : (o.transcript c l s).result.1 = .ok a) :
    let first := o.transcript c l s
    let next := (f a).transcript c first.result.2 first.state
    (o >>= f).transcript c l s = ⟨next.result, first.exchanges ++ next.exchanges, next.state⟩ := by
  intro first next
  refine Course.transcript_eq (course_bind_iff.2 (.inl ⟨a, first.result.2, first.exchanges,
    next.exchanges, ?_, transcript_course _ c _ _, rfl⟩)) (Connection.answers_append_iff.2
      ⟨first.state, transcript_answers o c l s, transcript_answers _ c _ _⟩)
  rw [← h]
  exact transcript_course o c l s

/-- It ends where the first one fails. -/
theorem transcript_bind_of_error {e : Failure} (h : (o.transcript c l s).result.1 = .error e) :
    let first := o.transcript c l s
    (o >>= f).transcript c l s = ⟨(.error e, first.result.2), first.exchanges, first.state⟩ := by
  intro first
  refine Course.transcript_eq (course_bind_iff.2 (.inr ⟨e, ?_, rfl⟩)) (transcript_answers o c l s)
  rw [← h]
  exact transcript_course o c l s

end Operation

end SchemaChange
