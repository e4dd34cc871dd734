import SchemaChange.Editor.Rows
import SchemaChange.Proofs.Course.Statement

/-!
# Operations that ignore rejections

An operation that ignores rejections takes the courses of the one that does not, and comes to the
same, but that a rejection is replaced by a result that stands for it (`Tolerates`). For this to
carry over from the parts of an operation to the whole, the parts that do not know of ignoring must
not end in a rejection (`Unrejected`).
-/

namespace SchemaChange

variable {α β : Type} {ignoring : Bool}

/-- Whether an operation that ends so was ended by the rejection of a statement. -/
def isRejection : Except Failure α → Bool
  | .ok _ => false
  | .error f => f.isExecution

/-- What an operation comes to with rejections ignored, given what it comes to without that. -/
def tolerated (fallback : α) (r : Except Failure α) : Except Failure α :=
  if isRejection r then .ok fallback else r

theorem isRejection_tolerated (fallback : α) (r : Except Failure α) :
    isRejection (tolerated fallback r) = false := by
  unfold tolerated
  split
  · rfl
  · exact eq_false_of_ne_true ‹_›

/-- The operation never ends in a rejection. -/
def Unrejected (o : Operation α) : Prop :=
  ∀ ⦃l xs r l'⦄, o.Course l xs r l' → isRejection r = false

/-- The second operation goes as the first one does, but ends in `fallback` where that one ends in a
    rejection. -/
def Tolerates (strict lenient : Operation α) (fallback : α) : Prop :=
  ∀ ⦃l xs r l'⦄, strict.Course l xs r l' → lenient.Course l xs (tolerated fallback r) l'

theorem Unrejected.pure (a : α) : Unrejected (pure a) := by
  intro l xs r l' hc
  obtain ⟨_, rfl, _⟩ := Operation.course_pure_iff.1 hc
  rfl

theorem Unrejected.fail (f : Failure) (hf : f.isExecution = false) :
    Unrejected (throw f : Operation α) := by
  intro l xs r l' hc
  obtain ⟨_, rfl, _⟩ := Operation.course_throw_iff.1 hc
  exact hf

/-- Operations that pass no rejection on pass none on one after the other. -/
theorem Unrejected.bind {o : Operation α} {f : α → Operation β} (ho : Unrejected o)
    (hf : ∀ a, Unrejected (f a)) : Unrejected (o >>= f) := by
  intro l xs r l' hc
  rcases Operation.course_bind_iff.1 hc with ⟨a, l₁, ys, zs, _, hnext, rfl⟩ | ⟨e, hfail, rfl⟩
  · exact hf a hnext
  · exact ho hfail

namespace Tolerates

variable {o o' : Operation α} {f g : α → Operation β} {a : α} {b : β}

theorem refl (h : Unrejected o) (fallback : α) : Tolerates o o fallback := by
  intro l xs r l' hc
  rwa [tolerated, if_neg (by rw [h hc]; exact Bool.false_ne_true)]

/-- What comes before does not know of ignoring. -/
theorem after (ho : Unrejected o) (hf : ∀ a, Tolerates (f a) (g a) b) :
    Tolerates (o >>= f) (o >>= g) b := by
  intro l xs r l' hc
  rcases Operation.course_bind_iff.1 hc with ⟨a, l₁, ys, zs, ha, hnext, rfl⟩ | ⟨e, hfail, rfl⟩
  · exact Operation.course_bind_iff.2 (.inl ⟨a, l₁, ys, zs, ha, hf a hnext, rfl⟩)
  · have he : tolerated b (.error e : Except Failure β) = .error e :=
      if_neg fun h => Bool.false_ne_true ((ho hfail).symm.trans h)
    rw [he]
    exact Operation.course_bind_iff.2 (.inr ⟨e, hfail, rfl⟩)

/-- What comes before may be rejected, and what comes after then gives the fallback at once. -/
theorem bind (ho : Tolerates o o' a) (hf : ∀ a, Tolerates (f a) (g a) b) (ha : g a = Pure.pure b) :
    Tolerates (o >>= f) (o' >>= g) b := by
  intro l xs r l' hc
  rcases Operation.course_bind_iff.1 hc with ⟨a₁, l₁, ys, zs, hok, hnext, rfl⟩ | ⟨e, hfail, rfl⟩
  · exact Operation.course_bind_iff.2 (.inl ⟨a₁, l₁, ys, zs, ho hok, hf a₁ hnext, rfl⟩)
  · have hcourse := ho hfail
    by_cases he : e.isExecution
    · have hb : tolerated b (.error e : Except Failure β) = .ok b := if_pos he
      have ha' : tolerated a (.error e : Except Failure α) = .ok a := if_pos he
      rw [ha'] at hcourse
      rw [hb]
      -- The second operation goes on where the first one ends, but exchanges nothing more.
      refine Operation.course_bind_iff.2
        (.inl ⟨a, l', xs, [], hcourse, ?_, (List.append_nil xs).symm⟩)
      rw [ha]
      exact Operation.course_pure_iff.2 ⟨rfl, rfl, rfl⟩
    · have hb : tolerated b (.error e : Except Failure β) = .error e := if_neg he
      have ha' : tolerated a (.error e : Except Failure α) = .error e := if_neg he
      rw [ha'] at hcourse
      rw [hb]
      exact Operation.course_bind_iff.2 (.inr ⟨e, hcourse, rfl⟩)

end Tolerates

namespace Editor

/-- One statement. -/
theorem execute_tolerates (sql : String) (params : List Value) :
    Tolerates (execute sql params false) (execute sql params true) none := by
  intro l xs r l' hc
  obtain ⟨reply, rfl, rfl, rfl⟩ := course_execute_iff.1 hc
  refine course_execute_iff.2 ⟨reply, rfl, rfl, ?_⟩
  cases reply with
  | ok n => rfl
  | error e => cases h : e.isExecution <;> simp [tolerated, isRejection, Failure.isExecution, h]

/-- A statement whose rejection is ignored passes none on. -/
theorem execute_unrejected (sql : String) (params : List Value) :
    Unrejected (execute sql params true) := by
  intro l xs r l' hc
  obtain ⟨reply, rfl, rfl, rfl⟩ := course_execute_iff.1 hc
  cases reply with
  | ok n => rfl
  | error e => cases h : e.isExecution <;> simp [isRejection, Failure.isExecution, h]

/-- A statement of a change. -/
theorem run_tolerates (sql : String) : Tolerates (run sql false) (run sql true) .failureIgnored :=
  (execute_tolerates sql []).bind
    (fun
      | none => .refl (.pure _) _
      | some _ => .refl (.pure _) _)
    rfl

theorem run_unrejected (sql : String) : Unrejected (run sql true) :=
  (execute_unrejected sql []).bind fun
    | none => .pure _
    | some _ => .pure _

theorem runUnless_tolerates (done : Bool) (sql : String) :
    Tolerates (runUnless done sql false) (runUnless done sql true) .failureIgnored := by
  cases done with
  | true => exact .refl (.pure _) _
  | false => exact run_tolerates sql

/-- Where an operation goes on only after statements that were not rejected. -/
theorem next_tolerates {o o' p p' : Operation Outcome} (h : Tolerates o o' Outcome.failureIgnored)
    (h' : Tolerates p p' Outcome.failureIgnored) :
    Tolerates (o >>= fun a => if a = .failureIgnored then pure .failureIgnored else p)
      (o' >>= fun a => if a = .failureIgnored then pure .failureIgnored else p') .failureIgnored := by
  refine h.bind (fun a => ?_) rfl
  split
  · exact .refl (.pure _) _
  · exact h'

/-- Statements in turn end where one is rejected, ignored or not. -/
theorem runAll_tolerates (sqls : List String) :
    Tolerates (runAll false sqls) (runAll true sqls) .failureIgnored := by
  induction sqls with
  | nil => exact .refl (.pure _) _
  | cons sql rest ih =>
    rw [runAll_cons, runAll_cons]
    exact next_tolerates (run_tolerates sql) ih

theorem writeRows_tolerates (update : String) (keyless : Bool) (rows : List Row) :
    Tolerates (writeRows update keyless false rows) (writeRows update keyless true rows)
      .failureIgnored := by
  induction rows with
  | nil => exact .refl (.pure _) _
  | cons row rows ih =>
    cases h : writeBack? keyless row with
    | none => rwa [writeRows_cons_none _ _ _ h, writeRows_cons_none _ _ _ h]
    | some params =>
      rw [writeRows_cons_some _ _ _ h, writeRows_cons_some _ _ _ h]
      refine (execute_tolerates update params).bind (fun affected? => ?_) rfl
      split
      · exact .refl (.pure _) _
      · exact ih

/-- A copy, whose query may be rejected as well. -/
theorem applyCopy_tolerates (copy : Copy) :
    Tolerates (applyCopy copy false) (applyCopy copy true) .failureIgnored := by
  cases copy with
  | assign sql => exact run_tolerates sql
  | decode select update keyColumns =>
    intro l xs r l' hc
    obtain ⟨reply, ys, rfl, hf⟩ := Operation.course_attempt_bind_iff.1 hc
    refine Operation.course_attempt_bind_iff.2 ⟨reply, ys, rfl, ?_⟩
    cases reply with
    | ok result => exact writeRows_tolerates update keyColumns.isEmpty result.rows hf
    | error e =>
      obtain ⟨rfl, rfl, rfl⟩ := Operation.course_throw_iff.1 hf
      by_cases he : e.isExecution
      · have hr : tolerated Outcome.failureIgnored (.error (.database e)) = .ok .failureIgnored :=
          if_pos he
        simp only [he, Bool.and_true, if_true, hr]
        exact Operation.course_pure_iff.2 ⟨rfl, rfl, rfl⟩
      · have hr : tolerated Outcome.failureIgnored (.error (.database e)) = .error (.database e) :=
          if_neg he
        simp only [he, Bool.and_false, hr]
        exact Operation.course_throw_iff.2 ⟨rfl, rfl, rfl⟩

theorem restore_unrejected (outcome : Outcome) (sqls : List String) :
    Unrejected (restore outcome sqls) := by
  induction sqls generalizing outcome with
  | nil => exact .pure _
  | cons sql rest ih =>
    refine (run_unrejected sql).bind fun a => ?_
    cases a with
    | failureIgnored => exact ih _
    | applied | skipped | appliedWithoutAttributes => exact ih _

/-- A rebuild: its restorations are tolerated in any case. -/
theorem applyRebuild_tolerates (plan : Rebuild) :
    Tolerates (applyRebuild plan false) (applyRebuild plan true) .failureIgnored :=
  next_tolerates (run_tolerates plan.addTemporary) <|
    next_tolerates (applyCopy_tolerates plan.copy) <|
      next_tolerates (runAll_tolerates [plan.dropOld, plan.rename]) <|
        .refl (restore_unrejected .applied plan.restorations) _

theorem applyChange_tolerates (change : ColumnChange) :
    Tolerates (applyChange change false) (applyChange change true) .failureIgnored := by
  cases change with
  | inPlace sql => exact run_tolerates sql
  | rebuild plan => exact applyRebuild_tolerates plan

/-- Scripts ignore rejections in any case. -/
theorem runCounting_unrejected (summary : ScriptSummary) (sqls : List String) :
    Unrejected (runCounting summary sqls) := by
  induction sqls generalizing summary with
  | nil => exact .pure _
  | cons sql rest ih =>
    exact (execute_unrejected sql []).bind fun
      | none => ih _
      | some _ => ih _

end Editor

end SchemaChange
