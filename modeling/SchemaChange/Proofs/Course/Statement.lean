import Mathlib.Data.List.Forall2
import SchemaChange.Editor.Columns
import SchemaChange.Proofs.Course.InTurn

/-!
# Courses of changes

How the operations that changes are made of send their statements: in turn, up to the first one that
fails, and with a result that depends on that failure alone (`verdict`).

* `Editor.course_execute_iff`: the courses of one statement;
* `Editor.runAll_sends`, `Editor.writeRows_sends`, `Editor.applyCopy_sends`: several statements are
  sent in turn;
* `Sends.course_next`: what goes on only after statements that went through.
-/

namespace SchemaChange

/-! ## Verdicts -/

/-- What a change comes to that has sent statements up to the first failure. -/
def verdict (ignoring : Bool) (xs : List Exchange) : Except Failure Outcome :=
  match xs.findSome? Exchange.error? with
  | none => .ok .applied
  | some e => if ignoring && e.isExecution then .ok .failureIgnored else .error (.database e)

variable {ignoring : Bool} {xs ys : List Exchange} {l l' : Option CaseRule}

theorem findSome?_error?_eq_none_iff :
    xs.findSome? Exchange.error? = none ↔ ∀ x ∈ xs, x.failed = false := by
  simp [List.findSome?_eq_none_iff, Exchange.failed]

theorem verdict_of_accepted (h : ∀ x ∈ xs, x.failed = false) :
    verdict ignoring xs = .ok .applied := by
  rw [verdict, findSome?_error?_eq_none_iff.2 h]

theorem verdict_eq_applied_iff :
    verdict ignoring xs = .ok .applied ↔ ∀ x ∈ xs, x.failed = false := by
  refine ⟨fun h => ?_, verdict_of_accepted⟩
  unfold verdict at h
  split at h
  · rwa [← findSome?_error?_eq_none_iff]
  · split at h <;> cases h

theorem exists_failed_of_verdict_ne (h : verdict ignoring xs ≠ .ok .applied) :
    ∃ x ∈ xs, x.failed = true :=
  Classical.byContradiction fun hall =>
    h (verdict_of_accepted fun x hx => eq_false_of_ne_true fun hf => hall ⟨x, hx, hf⟩)

theorem verdict_append_of_accepted (h : ∀ x ∈ xs, x.failed = false) :
    verdict ignoring (xs ++ ys) = verdict ignoring ys := by
  rw [verdict, List.findSome?_append, findSome?_error?_eq_none_iff.2 h, Option.none_or, verdict]

/-! ## Statements in turn -/

/-- The operation makes exchanges of which `P` holds and ends with the verdict on them. -/
def Sends (o : Operation Outcome) (ignoring : Bool) (P : List Exchange → Prop) : Prop :=
  ∀ ⦃l xs r l'⦄, o.Course l xs r l' → P xs ∧ r = verdict ignoring xs ∧ l' = l

/-- Where an operation goes on only after statements that were not rejected, either one of these
    failed and is the end of it, or all went through. -/
theorem Sends.course_next {o o' : Operation Outcome} {P : List Exchange → Prop}
    {r : Except Failure Outcome} (h : Sends o ignoring P)
    (hc : (o >>= fun a => if a = .failureIgnored then pure .failureIgnored else o').Course l xs r l') :
    (P xs ∧ (∃ x ∈ xs, x.failed = true) ∧ r = verdict ignoring xs ∧ l' = l) ∨
      ∃ ys zs, P ys ∧ (∀ x ∈ ys, x.failed = false) ∧ o'.Course l zs r l' ∧ xs = ys ++ zs := by
  rcases Operation.course_bind_iff.1 hc with ⟨a, l₁, ys, zs, ho, hnext, rfl⟩ | ⟨e, ho, rfl⟩
  · obtain ⟨hP, ha, rfl⟩ := h ho
    by_cases hfail : a = .failureIgnored
    · rw [if_pos hfail] at hnext
      obtain ⟨rfl, rfl, rfl⟩ := Operation.course_pure_iff.1 hnext
      subst hfail
      rw [List.append_nil]
      exact .inl ⟨hP, exists_failed_of_verdict_ne (by rw [← ha]; simp), ha, rfl⟩
    · rw [if_neg hfail] at hnext
      refine .inr ⟨ys, zs, hP, ?_, hnext, rfl⟩
      unfold verdict at ha
      split at ha
      · rwa [← findSome?_error?_eq_none_iff]
      · split at ha <;> cases ha
        exact absurd rfl hfail
  · obtain ⟨hP, he, rfl⟩ := h ho
    exact .inl ⟨hP, exists_failed_of_verdict_ne (by rw [← he]; simp), he, rfl⟩

/-- Operations after each other send their statements in turn. -/
theorem Sends.next {o o' : Operation Outcome} {rs rs' : List Request}
    (h : Sends o ignoring (InTurn Exchange.failed rs))
    (h' : Sends o' ignoring (InTurn Exchange.failed rs')) :
    Sends (o >>= fun a => if a = .failureIgnored then pure .failureIgnored else o') ignoring
      (InTurn Exchange.failed (rs ++ rs')) := by
  intro l xs r l' hc
  rcases h.course_next hc with ⟨hP, hstop, hr, hl⟩ | ⟨ys, zs, hys, hgo, hnext, rfl⟩
  · exact ⟨hP.append_of_stop hstop, hr, hl⟩
  · obtain ⟨hzs, rfl, rfl⟩ := h' hnext
    exact ⟨hys.append hgo hzs, (verdict_append_of_accepted hgo).symm, rfl⟩

namespace Editor

/-- One statement is sent; nothing comes back if it was rejected and that is ignored. -/
theorem course_execute_iff {sql : String} {params : List Value} {r : Except Failure (Option Nat)} :
    (execute sql params ignoring).Course l xs r l' ↔
      ∃ reply : Except DatabaseError Nat, xs = [⟨.execute sql params, reply⟩] ∧ l' = l ∧
        r = match reply with
          | .ok affected => .ok (some affected)
          | .error e => if ignoring && e.isExecution then .ok none else .error (.database e) := by
  refine Operation.course_attempt_bind_iff.trans ?_
  constructor
  · rintro ⟨reply, ys, rfl, h⟩
    refine ⟨reply, ?_⟩
    cases reply with
    | ok n =>
      obtain ⟨rfl, rfl, rfl⟩ := Operation.course_pure_iff.1 h
      exact ⟨rfl, rfl, rfl⟩
    | error e =>
      by_cases hi : ignoring && e.isExecution
      · simp only [hi, if_true] at h ⊢
        obtain ⟨rfl, rfl, rfl⟩ := Operation.course_pure_iff.1 h
        exact ⟨rfl, rfl, rfl⟩
      · simp only [hi] at h ⊢
        obtain ⟨rfl, rfl, rfl⟩ := Operation.course_throw_iff.1 h
        exact ⟨rfl, rfl, rfl⟩
  · rintro ⟨reply, rfl, rfl, rfl⟩
    refine ⟨reply, [], rfl, ?_⟩
    cases reply with
    | ok n => exact Operation.course_pure_iff.2 ⟨rfl, rfl, rfl⟩
    | error e =>
      by_cases hi : ignoring && e.isExecution
      · simp only [hi, if_true]
        exact Operation.course_pure_iff.2 ⟨rfl, rfl, rfl⟩
      · simp only [hi]
        exact Operation.course_throw_iff.2 ⟨rfl, rfl, rfl⟩

/-- An operation that begins with a statement goes on with what came back for it. -/
theorem course_execute_bind {α : Type} {sql : String} {params : List Value}
    {f : Option Nat → Operation α} {r : Except Failure α}
    (hc : (execute sql params ignoring >>= f).Course l xs r l') :
    (∃ n ys, xs = ⟨.execute sql params, .ok n⟩ :: ys ∧ (f (some n)).Course l ys r l') ∨
      ∃ e ys, xs = ⟨.execute sql params, .error e⟩ :: ys ∧
        if ignoring && e.isExecution then (f none).Course l ys r l'
        else ys = [] ∧ r = .error (.database e) ∧ l' = l := by
  rcases Operation.course_bind_iff.1 hc with ⟨a, l₁, _, zs, ho, hf, rfl⟩ | ⟨e, ho, rfl⟩
  · obtain ⟨e | n, rfl, rfl, ha⟩ := course_execute_iff.1 ho
    · refine .inr ⟨e, zs, rfl, ?_⟩
      dsimp only at ha
      split at ha <;> cases ha
      rwa [if_pos ‹_›]
    · cases ha
      exact .inl ⟨n, zs, rfl, hf⟩
  · obtain ⟨e | n, rfl, rfl, ha⟩ := course_execute_iff.1 ho
    · refine .inr ⟨e, [], rfl, ?_⟩
      dsimp only at ha
      split at ha <;> cases ha
      rw [if_neg ‹_›]
      exact ⟨rfl, rfl, rfl⟩
    · cases ha

/-- A statement and an operation after it that is reached only if the statement went through. -/
theorem sends_execute_next {sql : String} {params : List Value} {rs : List Request}
    {f : Option Nat → Operation Outcome} {o : Operation Outcome}
    (hnone : f none = pure .failureIgnored) (hsome : ∀ n, f (some n) = o)
    (h : Sends o ignoring (InTurn Exchange.failed rs)) :
    Sends (execute sql params ignoring >>= f) ignoring
      (InTurn Exchange.failed (.execute sql params :: rs)) := by
  intro l xs r l' hc
  rcases course_execute_bind hc with ⟨n, ys, rfl, hf⟩ | ⟨e, ys, rfl, hf⟩
  · rw [hsome] at hf
    obtain ⟨hys, rfl, rfl⟩ := h hf
    exact ⟨⟨rfl, hys⟩, rfl, rfl⟩
  · have hverdict : ∀ ys, verdict ignoring (⟨.execute sql params, .error e⟩ :: ys) =
        if ignoring && e.isExecution then .ok .failureIgnored else .error (.database e) :=
      fun _ => rfl
    rw [hverdict]
    split at hf
    · rw [hnone] at hf
      obtain ⟨rfl, rfl, rfl⟩ := Operation.course_pure_iff.1 hf
      exact ⟨⟨rfl, rfl⟩, (if_pos ‹_›).symm, rfl⟩
    · obtain ⟨rfl, rfl, rfl⟩ := hf
      exact ⟨⟨rfl, rfl⟩, (if_neg ‹_›).symm, rfl⟩

theorem pure_applied_sends (ignoring : Bool) :
    Sends (pure .applied) ignoring (InTurn Exchange.failed []) := by
  intro l xs r l' hc
  obtain ⟨rfl, rfl, rfl⟩ := Operation.course_pure_iff.1 hc
  exact ⟨rfl, rfl, rfl⟩

theorem run_eq (sql : String) (ignoring : Bool) :
    run sql ignoring = execute sql [] ignoring >>= fun affected? =>
      pure (if affected?.isSome then .applied else .failureIgnored) := by
  refine congrArg (execute sql [] ignoring >>= ·) (funext fun affected? => ?_)
  cases affected? <;> rfl

/-- One statement is sent. -/
theorem run_sends (sql : String) (ignoring : Bool) :
    Sends (run sql ignoring) ignoring (InTurn Exchange.failed [.execute sql []]) :=
  sends_execute_next rfl (fun _ => rfl) (pure_applied_sends ignoring)

theorem runAll_cons (ignoring : Bool) (sql : String) (rest : List String) :
    runAll ignoring (sql :: rest) = run sql ignoring >>= fun a =>
      if a = .failureIgnored then pure .failureIgnored else runAll ignoring rest := by
  rw [runAll]
  refine congrArg (run sql ignoring >>= ·) (funext fun a => ?_)
  cases a <;> rfl

/-- Several statements are sent in turn. -/
theorem runAll_sends (ignoring : Bool) (sqls : List String) :
    Sends (runAll ignoring sqls) ignoring
      (InTurn Exchange.failed (sqls.map fun sql => .execute sql [])) := by
  induction sqls with
  | nil => exact pure_applied_sends ignoring
  | cons sql rest ih =>
    rw [runAll_cons]
    exact (run_sends sql ignoring).next ih

end Editor

/-! ## Copies -/

/-- The rows that came back, if rows were asked for. -/
def Exchange.rows? : Exchange → Option (List Row)
  | ⟨.query _ _, .ok result⟩ => some result.rows
  | _ => none

/-- The rows that were read, none if none were. -/
def selectedRows (xs : List Exchange) : List Row :=
  (xs.findSome? Exchange.rows?).getD []

/-- The text that a value becomes in a text column. -/
def Value.decodedText : Value → String
  | .bytes bs => String.ofList (Text.tolerantText bs)
  | v => v.display

/-- The value that a row is copied from: its last one, unless that is NULL. -/
def Row.source? (row : Row) : Option Value :=
  row.values.getLast?.filter fun v => !v.isNull

/-- What writes the text of a row back: the text is bound first, and then the key of the row, which
    is the source where there are no key columns. -/
def Row.writeBack? (update : String) (keyless : Bool) (row : Row) : Option Request :=
  row.source?.map fun v =>
    .execute update (.text v.decodedText :: if keyless then [v] else row.values.dropLast)

/-- The requests that a copy makes, given the rows that it reads. -/
def Copy.requests (rows : List Row) : Copy → List Request
  | .assign sql => [.execute sql []]
  | .decode select update keyColumns =>
    .query select [] :: rows.filterMap (Row.writeBack? update keyColumns.isEmpty)

/-- The rows that have a source. -/
def sourced (rows : List Row) : List Row :=
  rows.filter fun row => row.source?.isSome

/-- The rows that have a source are the ones that are written back, one for one. -/
theorem forall₂_writeBack? (update : String) (keyless : Bool) (rows : List Row) :
    List.Forall₂ (fun row r => row.writeBack? update keyless = some r) (sourced rows)
      (rows.filterMap (Row.writeBack? update keyless)) := by
  induction rows with
  | nil => exact .nil
  | cons row rows ih =>
    have hsome : (row.writeBack? update keyless).isSome = row.source?.isSome := Option.isSome_map
    cases hwrite : row.writeBack? update keyless with
    | none =>
      rw [hwrite] at hsome
      rw [List.filterMap_cons_none hwrite, sourced, List.filter_cons, if_neg (by simp [← hsome])]
      exact ih
    | some r =>
      rw [List.filterMap_cons_some hwrite, sourced, List.filter_cons, if_pos (by rw [← hsome, hwrite]; rfl)]
      exact .cons hwrite ih

section WriteBack

variable {update : String} {keyless : Bool} {rows : List Row}

/-- Writes that are the first ones of a copy belong to the first rows, one for one. -/
theorem forall₂_of_isPrefix
    (h : xs.map Exchange.request <+: rows.filterMap (Row.writeBack? update keyless)) :
    List.Forall₂ (fun row x => row.writeBack? update keyless = some x.request)
      ((sourced rows).take xs.length) xs := by
  have hfirst := List.forall₂_take xs.length (forall₂_writeBack? update keyless rows)
  have hrequests := List.prefix_iff_eq_take.1 h
  rw [List.length_map] at hrequests
  rwa [← hrequests, List.forall₂_map_right_iff] at hfirst

/-- All writes of a copy belong to all rows. -/
theorem forall₂_of_writeBack?
    (h : xs.map Exchange.request = rows.filterMap (Row.writeBack? update keyless)) :
    List.Forall₂ (fun row x => row.writeBack? update keyless = some x.request) (sourced rows) xs := by
  have hall := forall₂_writeBack? update keyless rows
  rwa [← h, List.forall₂_map_right_iff] at hall

end WriteBack

/-- Executing statements reads no rows. -/
theorem findSome?_rows?_of_execute (h : ∀ x ∈ xs, ∃ sql params, x.request = .execute sql params) :
    xs.findSome? Exchange.rows? = none := by
  rw [List.findSome?_eq_none_iff]
  intro x hx
  obtain ⟨r, reply⟩ := x
  obtain ⟨sql, params, rfl⟩ := h _ hx
  rfl

theorem selectedRows_append_left (h : ∀ x ∈ xs, ∃ sql params, x.request = .execute sql params) :
    selectedRows (xs ++ ys) = selectedRows ys := by
  rw [selectedRows, List.findSome?_append, findSome?_rows?_of_execute h, Option.none_or, selectedRows]

theorem selectedRows_append_right (h : ∀ y ∈ ys, ∃ sql params, y.request = .execute sql params) :
    selectedRows (xs ++ ys) = selectedRows xs := by
  rw [selectedRows, List.findSome?_append, findSome?_rows?_of_execute h, Option.or_none, selectedRows]

namespace Editor

theorem writeBack?_eq (update : String) (keyless : Bool) (row : Row) :
    (writeBack? keyless row).map (.execute update) = row.writeBack? update keyless := by
  unfold writeBack? Row.writeBack? Row.source?
  cases row.values.getLast? with
  | none => rfl
  | some v => cases v <;> rfl

theorem writeRows_cons_none {keyless : Bool} {row : Row} (update : String) (ignoring : Bool)
    (rows : List Row) (h : writeBack? keyless row = none) :
    writeRows update keyless ignoring (row :: rows) = writeRows update keyless ignoring rows := by
  rw [writeRows, h]

theorem writeRows_cons_some {keyless : Bool} {row : Row} {params : List Value} (update : String)
    (ignoring : Bool) (rows : List Row) (h : writeBack? keyless row = some params) :
    writeRows update keyless ignoring (row :: rows) =
      execute update params ignoring >>= fun affected? =>
        if affected?.isNone then pure .failureIgnored
        else writeRows update keyless ignoring rows := by
  rw [writeRows, h]
  refine congrArg (execute update params ignoring >>= ·) (funext fun affected? => ?_)
  cases affected? <;> rfl

/-- The rows of a decoding copy are written back in turn, but for those without a source. -/
theorem writeRows_sends (update : String) (keyless ignoring : Bool) (rows : List Row) :
    Sends (writeRows update keyless ignoring rows) ignoring
      (InTurn Exchange.failed (rows.filterMap (Row.writeBack? update keyless))) := by
  induction rows with
  | nil => exact pure_applied_sends ignoring
  | cons row rows ih =>
    have hrow := writeBack?_eq update keyless row
    cases h : writeBack? keyless row with
    | none =>
      rw [h] at hrow
      rwa [writeRows_cons_none _ _ _ h, List.filterMap_cons_none hrow.symm]
    | some params =>
      rw [h] at hrow
      rw [writeRows_cons_some _ _ _ h, List.filterMap_cons_some hrow.symm]
      exact sends_execute_next rfl (fun _ => rfl) ih

/-- A copy is one statement, or a query and then one statement for each row read. -/
theorem applyCopy_sends (copy : Copy) (ignoring : Bool) :
    Sends (applyCopy copy ignoring) ignoring fun xs =>
      InTurn Exchange.failed (copy.requests (selectedRows xs)) xs := by
  cases copy with
  | assign sql => exact run_sends sql ignoring
  | decode select update keyColumns =>
    intro l xs r l' hc
    obtain ⟨reply, ys, rfl, hf⟩ := Operation.course_attempt_bind_iff.1 hc
    cases reply with
    | ok result =>
      obtain ⟨hys, rfl, rfl⟩ := writeRows_sends update keyColumns.isEmpty ignoring result.rows hf
      exact ⟨⟨rfl, hys⟩, rfl, rfl⟩
    | error e =>
      have hverdict : verdict ignoring (⟨.query select [], .error e⟩ :: ys) =
          if ignoring && e.isExecution then .ok .failureIgnored else .error (.database e) := rfl
      rw [hverdict]
      by_cases hi : ignoring && e.isExecution
      · simp only [hi, if_true] at hf ⊢
        obtain ⟨rfl, rfl, rfl⟩ := Operation.course_pure_iff.1 hf
        exact ⟨⟨rfl, rfl⟩, rfl, rfl⟩
      · simp only [hi] at hf ⊢
        obtain ⟨rfl, rfl, rfl⟩ := Operation.course_throw_iff.1 hf
        exact ⟨⟨rfl, rfl⟩, rfl, rfl⟩

end Editor

end SchemaChange
