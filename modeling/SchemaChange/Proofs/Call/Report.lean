import SchemaChange.Proofs.Call.Ending

/-!
# What an edit reports

The outcome of an edit tells what was sent to the database (`Edit.perform_truthful`). An edit that was
skipped sent nothing; one that was applied sent all its work, and all of it went through; one whose
failure was ignored was allowed to, and sent its work up to a statement that was rejected. So did one
that failed over a statement.
-/

namespace SchemaChange

variable {σ : Type} {copies mayIgnore : Bool} {due : Work → Prop} {rs : List Request}
  {xs ys zs : List Exchange} {error : DatabaseError} {result : Except Failure Outcome}

/-- The exchanges that look something up, for an edit that reads rows in order to copy them or not. -/
def lookedUp (copies : Bool) (xs : List Exchange) : List Exchange :=
  xs.filter fun x => x.request.looksUp copies

/-- All other exchanges: statements that were sent, and the query of a copy. -/
def sent (copies : Bool) (xs : List Exchange) : List Exchange :=
  xs.filter fun x => !x.request.looksUp copies

/-- The first of the requests `rs` were made, and all of them went through but the last one, which came
    to `error`. -/
def StoppedAt (error : DatabaseError) (rs : List Request) (xs : List Exchange) : Prop :=
  xs.map Exchange.request <+: rs ∧
    ∃ ys x, xs = ys ++ [x] ∧ (∀ y ∈ ys, y.failed = false) ∧ x.error? = some error

/-- What a result tells of the exchanges `xs`, given whether rejections may be ignored and which work is
    due. -/
structure Truthful (mayIgnore copies : Bool) (due : Work → Prop) (xs : List Exchange)
    (result : Except Failure Outcome) : Prop where
  skipped : result = .ok .skipped → sent copies xs = []
  applied : result = .ok .applied → ∃ w, due w ∧
    (sent copies xs).map Exchange.request = w.requests (selectedRows (sent copies xs)) ∧
      ∀ x ∈ sent copies xs, x.failed = false
  failureIgnored : result = .ok .failureIgnored → mayIgnore = true ∧ ∃ w error, due w ∧
    StoppedAt error (w.requests (selectedRows (sent copies xs))) (sent copies xs) ∧
      error.isExecution = true
  failed : ∀ f, result = .error f → f.isBuild = true ∨ f.isMetadata = true ∨
    (f.isConnection = true ∧ ∃ x ∈ lookedUp copies xs, x.failed = true) ∨
      ∃ w error, due w ∧ f = .database error ∧
        StoppedAt error (w.requests (selectedRows (sent copies xs))) (sent copies xs)
  complete : result ≠ .ok .appliedWithoutAttributes

theorem sent_of_looksUp (hxs : ∀ x ∈ xs, x.request.looksUp copies = true) : sent copies xs = [] :=
  List.filter_eq_nil_iff.2 fun x hx => by simp [hxs x hx]

theorem sent_of_not_looksUp (hxs : ∀ x ∈ xs, x.request.looksUp copies = false) :
    sent copies xs = xs :=
  List.filter_eq_self.2 fun x hx => by simp [hxs x hx]

theorem sent_append (hys : ∀ y ∈ ys, y.request.looksUp copies = true)
    (hzs : ∀ z ∈ zs, z.request.looksUp copies = false) : sent copies (ys ++ zs) = zs := by
  rw [sent, List.filter_append, ← sent, ← sent, sent_of_looksUp hys, sent_of_not_looksUp hzs,
    List.nil_append]

theorem lookedUp_of_looksUp (hxs : ∀ x ∈ xs, x.request.looksUp copies = true) :
    lookedUp copies xs = xs :=
  List.filter_eq_self.2 hxs

/-- The first error is that of the last statement. -/
theorem InTurn.stoppedAt (h : InTurn Exchange.failed rs xs)
    (herror : xs.findSome? Exchange.error? = some error) : StoppedAt error rs xs := by
  obtain ⟨z, hz, hze⟩ := List.exists_of_findSome?_eq_some herror
  obtain ⟨ys, x, rfl, hx, hys⟩ := h.exists_stop ⟨z, hz, Exchange.failed_of_error? hze⟩
  refine ⟨h.requests_prefix, ys, x, rfl, hys, ?_⟩
  rw [List.findSome?_append, findSome?_error?_eq_none_iff.2 hys] at herror
  simpa using herror

/-- An ending tells the truth about what was sent. -/
theorem Ending.truthful (h : Ending copies mayIgnore due xs result) :
    Truthful mayIgnore copies due xs result := by
  cases h with
  | skipped hxs =>
    exact ⟨fun _ => sent_of_looksUp hxs, nofun, nofun, nofun, nofun⟩
  | refused hxs hf =>
    refine ⟨nofun, nofun, nofun, ?_, nofun⟩
    rintro _ ⟨⟩
    rcases hf with hf | hf
    · exact (Bool.or_eq_true_iff.1 hf).imp_right .inl
    · rw [lookedUp_of_looksUp hxs]
      exact .inr (.inr (.inl hf))
  | sent hw hys hzs hturn =>
    have hsent := sent_append hys hzs
    -- The verdict hangs on the first failure, and that is the last statement sent.
    unfold verdict
    split
    · have haccepted := findSome?_error?_eq_none_iff.1 ‹_›
      refine ⟨nofun, fun _ => ⟨_, hw, ?_⟩, nofun, nofun, nofun⟩
      rw [hsent]
      exact ⟨hturn.requests_eq haccepted, haccepted⟩
    · have hstopped := hturn.stoppedAt ‹_›
      rw [← hsent] at hstopped
      split
      · obtain ⟨hignore, hexec⟩ := Bool.and_eq_true_iff.1 ‹_›
        exact ⟨nofun, nofun, fun _ => ⟨hignore, _, _, hw, hsent ▸ hstopped, hexec⟩, nofun, nofun⟩
      · refine ⟨nofun, nofun, nofun, ?_, nofun⟩
        rintro _ ⟨⟩
        exact .inr (.inr (.inr ⟨_, _, hw, rfl, hsent ▸ hstopped⟩))

/-- The work of an edit on a connection, by what is found out there. -/
def Edit.Due (e : Editor) (edit : Edit) (c : Connection σ) (learned : Option CaseRule) (s : σ)
    (w : Work) : Prop :=
  ∃ f, ((edit.findings e).transcript c learned s).result.1 = .ok f ∧ edit.work? f = some (.ok w)

/-- The outcome that an edit reports tells the truth, whatever it is asked and whatever the database
    says, unless the edit is a rebuild. -/
theorem Edit.perform_truthful (e : Editor) (edit : Edit) (ignoring : Bool) (c : Connection σ)
    (learned : Option CaseRule) (s : σ) (result : Except Failure Outcome)
    (hedit : edit.rebuilding? e = none)
    (hresult : edit.report? ((edit.perform e ignoring).transcript c learned s).result.1 =
      some result) :
    Truthful (edit.ignores ignoring) edit.copiesRows (edit.Due e c learned s)
      ((edit.perform e ignoring).transcript c learned s).exchanges result := by
  have hanswers := (edit.perform e ignoring).transcript_answers c learned s
  have hends := edit.perform_plans e hedit (Operation.transcript_course _ c learned s) hresult
  refine (hends.mono ?_).truthful
  rintro w ⟨ys, zs, f, l₁, hxs, hfind, hw⟩
  rw [hxs] at hanswers
  obtain ⟨s₁, hys, _⟩ := Connection.answers_append_iff.1 hanswers
  exact ⟨f, by rw [hfind.transcript_eq hys], hw⟩

/-! ## A column whose default is rejected -/

namespace Backfill

/-- An editor that takes names as they are. -/
def editor : Editor where
  inspector := ⟨⟨"driver", "product", true⟩, .generic, { case? := some .verbatim }⟩
  config := { driver := "driver", url := "url" }

/-- The default is to be written into the rows that are there. -/
def column : ColumnSpec := { name := "B", type := .integer, default? := some (.int32 0) }

/-- The table has no columns yet, and the database rejects that the default is written. -/
def connection : Connection Unit where
  answer _ r := (match r with
    | .execute sql _ =>
      if sql = "UPDATE T SET B = 0" then .error (.execution sql "rejected") else .ok 0
    | .getColumns _ _ => .ok []
    | _ => .error (.metadata "not asked for"), ())

end Backfill

open Backfill in
/-- The column is added, its default is rejected, and that is ignored and told. -/
theorem Edit.perform_truthful_backfill :
    Truthful true false ((addColumn "T" column).Due editor connection none ())
      (((addColumn "T" column).perform editor true).transcript connection none ()).exchanges
      (.ok .failureIgnored) :=
  perform_truthful editor (.addColumn "T" column) true connection none () (.ok .failureIgnored)
    rfl rfl

end SchemaChange
