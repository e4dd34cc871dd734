import SchemaChange.Proofs.Call.Staged
import SchemaChange.Proofs.Course.Lookup

/-!
# Edits that ignore rejections

To ignore rejections changes only how an edit reports one: the edit asks the same of the database,
gets the same replies and leaves it in the same state (`Edit.perform_ignoring`).
-/

namespace SchemaChange

variable {α : Type} {i : Inspector}

/-- No look-up ends in a rejection, whatever the database says of it. -/
theorem Operation.lookUp_unrejected (context : String) (q : Request) :
    Unrejected (lookUp context q) := by
  intro l xs r l' hc
  obtain ⟨reply, rfl, rfl, rfl⟩ := course_lookUp_iff.1 hc
  cases reply with
  | ok a => rfl
  | error e => exact e.inCatalog_isExecution context

theorem Inspector.inCatalog_unrejected (context : String) (q : Request) :
    Unrejected (i.inCatalog context q) := by
  unfold inCatalog requireCatalog
  split
  · exact (Unrejected.pure _).bind fun _ => Operation.lookUp_unrejected context q
  · exact (Unrejected.fail _ rfl).bind fun _ => Operation.lookUp_unrejected context q

theorem Inspector.caseRule_unrejected : Unrejected i.caseRule := by
  intro l xs r l' hc
  have hc := course_caseRule_iff.1 hc
  split at hc
  · rw [hc.2.1]
    rfl
  · exact inCatalog_unrejected _ _ hc.1

/-- No inquiry ends in a rejection. -/
theorem Inquiry.unrejected {o : Inspector.Setting → Operation α} (h : Inquiry i o)
    (w : Inspector.Setting) : Unrejected (o w) := by
  induction h with
  | pure a => exact .pure a
  | fail f hf => exact .fail f (Failure.isExecution_of_isRefusal hf)
  | bind _ _ ho hf => exact ho.bind hf
  | lookUp context q _ _ => exact Operation.lookUp_unrejected context q
  | inCatalog context q _ => exact Inspector.inCatalog_unrejected context q
  | caseRule => exact Inspector.caseRule_unrejected

theorem Staged.tolerates {copies : Bool} {fallback : α} {o : Inspector.Setting → Bool → Operation α}
    (h : Staged i copies fallback o) (w : Inspector.Setting) :
    Tolerates (o w false) (o w true) fallback := by
  induction h with
  | send h => exact h.tolerates
  | inquire ho _ ih => exact .after (ho.unrejected w) ih

theorem Edit.perform_tolerates (e : Editor) (edit : Edit) :
    Tolerates (edit.perform e false) (edit.perform e true) edit.ignored :=
  (edit.perform_staged e).tolerates e.inspector.setting

/-- Ignoring rejections changes nothing but the result, and that only if it would be a rejection. -/
theorem Edit.perform_ignoring {σ : Type} (e : Editor) (edit : Edit) (c : Connection σ)
    (learned : Option CaseRule) (s : σ) :
    let strict := (edit.perform e false).transcript c learned s
    let lenient := (edit.perform e true).transcript c learned s
    lenient.exchanges = strict.exchanges ∧ lenient.state = strict.state ∧
      lenient.result = (tolerated edit.ignored strict.result.1, strict.result.2) ∧
      isRejection lenient.result.1 = false := by
  intro strict lenient
  have hcourse := edit.perform_tolerates e ((edit.perform e false).transcript_course c learned s)
  have hlenient : lenient = ⟨(tolerated edit.ignored strict.result.1, strict.result.2),
      strict.exchanges, strict.state⟩ :=
    hcourse.transcript_eq ((edit.perform e false).transcript_answers c learned s)
  rw [hlenient]
  exact ⟨rfl, rfl, rfl, isRejection_tolerated _ _⟩

end SchemaChange
