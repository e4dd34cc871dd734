import SchemaChange.Editor.Call
import SchemaChange.Proofs.Course.Statement
import SchemaChange.Proofs.Rebuild.Plan

/-!
# Databases that execute rebuilds

What a rebuild relies on. A connection has states of which each has a content (`Serves`, `ReadsOnly`):
statements that go through have their effects, and what fails has none. `Content.database` is such a
connection, with the content as its state.
-/

namespace SchemaChange

variable {σ : Type}

/-- Nothing that is looked up or queried changes the content. -/
def ReadsOnly (c : Connection σ) (content : σ → Content) : Prop :=
  ∀ s r, r.looksUp false = true → content (c.answer s r).2 = content s

/-- The database executes the statements of a rebuild on a table, whose content its states have. -/
structure Serves (c : Connection σ) (content : σ → Content) (col : String → String)
    (w : Rebuilding) (f : Rebuilding.Facts) : Prop where
  /-- A statement that goes through has its effect, with whatever is bound. -/
  accepted : ∀ change ∈ w.changes f, ∀ sql, change.text f.builder w.table = .ok sql →
    ∀ s params n s', c.answer s (.execute sql params) = (.ok n, s') →
      change.effect? col params (content s) = some (content s')
  /-- A statement that fails has none. -/
  failed : ∀ change ∈ w.changes f, ∀ sql, change.text f.builder w.table = .ok sql →
    ∀ s params e s', c.answer s (.execute sql params) = (.error e, s') → content s' = content s
  /-- The query for the source returns what is there, in any order. -/
  selected : ∀ sql, selectionText f.builder w.table w.target.name f.keyColumns = .ok sql →
    ∀ s result s', c.answer s (.query sql []) = (.ok result, s') →
      (result.rows.map Row.values).Perm ((content s).selection col w.target.name f.keyColumns)

namespace Serves

variable {c : Connection σ} {content : σ → Content} {col : String → String} {w : Rebuilding}
  {f : Rebuilding.Facts} {change : Change} {sql : String} {ignoring : Bool}
  {l l' : Option CaseRule} {xs : List Exchange} {s s' : σ}

/-- A statement changes the content by its effect, or fails and does not change it. -/
theorem execute_content (h : Serves c content col w f) (hchange : change ∈ w.changes f)
    (hsql : change.text f.builder w.table = .ok sql) {params : List Value}
    {r : Except Failure (Option Nat)} (hc : (Editor.execute sql params ignoring).Course l xs r l')
    (ha : c.Answers s xs s') :
    ((∃ n, r = .ok (some n)) ∧ change.effect? col params (content s) = some (content s')) ∨
      (∀ a, r = .ok a → a = none) ∧ content s' = content s := by
  obtain ⟨reply, rfl, rfl, rfl⟩ := Editor.course_execute_iff.1 hc
  obtain ⟨s₁, hanswer, hs⟩ := Connection.answers_cons_iff.1 ha
  obtain rfl := Connection.answers_nil_iff.1 hs
  cases reply with
  | ok n => exact .inl ⟨⟨n, rfl⟩, h.accepted change hchange sql hsql s params n _ hanswer⟩
  | error e =>
    refine .inr ⟨fun a ha => ?_, h.failed change hchange sql hsql s params e _ hanswer⟩
    dsimp only at ha
    split at ha
    · exact (Except.ok.inj ha).symm
    · cases ha

theorem run_content (h : Serves c content col w f) (hchange : change ∈ w.changes f)
    (hsql : change.text f.builder w.table = .ok sql) {r : Except Failure Outcome}
    (hc : (Editor.run sql ignoring).Course l xs r l') (ha : c.Answers s xs s') :
    (r = .ok .applied ∧ change.effect? col [] (content s) = some (content s')) ∨
      (∀ a, r = .ok a → a = .failureIgnored) ∧ content s' = content s := by
  rw [Editor.run_eq] at hc
  rcases Operation.course_bind_iff.1 hc with ⟨a, l₁, ys, zs, hexec, hnext, rfl⟩ | ⟨e, hexec, rfl⟩
  · obtain ⟨rfl, rfl, _⟩ := Operation.course_pure_iff.1 hnext
    rw [List.append_nil] at ha
    rcases h.execute_content hchange hsql hexec ha with ⟨⟨n, hn⟩, heffect⟩ | ⟨hnone, hsame⟩
    · cases hn
      exact .inl ⟨rfl, heffect⟩
    · cases hnone a rfl
      refine .inr ⟨fun b hb => ?_, hsame⟩
      exact (Except.ok.inj hb).symm
  · rcases h.execute_content hchange hsql hexec ha with ⟨⟨n, hn⟩, _⟩ | ⟨_, hsame⟩
    · cases hn
    · exact .inr ⟨nofun, hsame⟩

end Serves

/-! ## A database with one table -/

/-- A database that reads statements on its one table by a dictionary of their texts, and rejects some
    of them. -/
def Content.database (statements : Dictionary Change) (rejects : String → Bool)
    (col : String → String) (source : String) (keyColumns : List String)
    (catalog : (r : Request) → r.Reply) : Connection Content where
  answer d
    | .execute sql params =>
      let rejected : Except DatabaseError Nat × Content := (.error (.execution sql "rejected"), d)
      if rejects sql then rejected
      else match statements.get? sql with
        | none => rejected
        | some change =>
          match change.effect? col params d with
          | none => rejected
          | some d' => (.ok d.rows.length, d')
    | .query _ _ => (.ok ⟨[], (d.selection col source keyColumns).map (Row.mk [])⟩, d)
    | r => (catalog r, d)

section Database

variable {statements : Dictionary Change} {rejects : String → Bool} {col : String → String}
  {w : Rebuilding} {f : Rebuilding.Facts} {catalog : (r : Request) → r.Reply}

theorem Content.database_readsOnly {source : String} {keyColumns : List String} :
    ReadsOnly (database statements rejects col source keyColumns catalog) id := by
  intro d r hr
  cases r <;> first | rfl | cases hr

/-- It serves a rebuild if it can read the statements. -/
theorem Content.database_serves (h : ∀ change ∈ w.changes f, ∃ sql,
      change.text f.builder w.table = .ok sql ∧ statements.get? sql = some change) :
    Serves (database statements rejects col w.target.name f.keyColumns catalog) id col w f := by
  have read : ∀ change ∈ w.changes f, ∀ sql, change.text f.builder w.table = .ok sql →
      statements.get? sql = some change := by
    intro change hchange sql hsql
    obtain ⟨text, htext, hread⟩ := h change hchange
    rwa [Except.ok.inj (htext.symm.trans hsql)] at hread
  refine ⟨?_, ?_, ?_⟩
  · intro change hchange sql hsql d params n d' hanswer
    simp only [database, read change hchange sql hsql] at hanswer
    split at hanswer
    · cases hanswer
    · split at hanswer
      · cases hanswer
      · rename_i heffect
        cases hanswer
        exact heffect
  · intro change hchange sql hsql d params error d' hanswer
    simp only [database, read change hchange sql hsql] at hanswer
    split at hanswer
    · cases hanswer
      rfl
    · split at hanswer <;> cases hanswer
      rfl
  · intro sql _ d result d' hanswer
    cases hanswer
    simp [Function.comp_def]

end Database

end SchemaChange
