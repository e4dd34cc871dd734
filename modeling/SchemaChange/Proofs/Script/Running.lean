import SchemaChange.Editor.Rows
import SchemaChange.Proofs.Course.Statement
import SchemaChange.Proofs.Text.Utf8

/-!
# Running a script

A script is run statement by statement. A statement that is rejected is counted and the next one follows;
only a failure of another kind ends the script early, and it is then the error of the script. What one
statement does is said once (`Editor.ScriptStep`).

* `Editor.runCounting_runs`: statements in turn, counted on from a summary;
* `Editor.executeScript_runs`: the script of a file.
-/

namespace SchemaChange

namespace Editor

variable {σ : Type} {summary : ScriptSummary} {sql : String} {sqls : List String}
  {xs : List Exchange} {l l' : Option CaseRule} {result : Except Failure ScriptSummary}

/-- The summary after one more statement, which went through or was rejected. -/
def ScriptSummary.add (summary : ScriptSummary) (x : Exchange) : ScriptSummary :=
  if x.failed then { summary with failed := summary.failed + 1 }
  else { summary with executed := summary.executed + 1 }

/-- Statements are counted by what came of them, and none twice. -/
theorem ScriptSummary.foldl_add (h : ∀ x ∈ xs, x.broke = false) (summary : ScriptSummary) :
    xs.foldl add summary =
      ⟨summary.executed + xs.countP (!·.failed), summary.failed + xs.countP Exchange.rejected⟩ := by
  induction xs generalizing summary with
  | nil => rfl
  | cons x xs ih =>
    obtain ⟨hx, hxs⟩ := List.forall_mem_cons.1 h
    have hrejected : x.failed = x.rejected := by rw [Exchange.failed_eq, hx, Bool.or_false]
    rw [List.foldl_cons, ih hxs, List.countP_cons, List.countP_cons, ← hrejected, add]
    cases x.failed <;> simp <;> omega

theorem ScriptSummary.total_add (summary : ScriptSummary) (x : Exchange) :
    (summary.add x).total = summary.total + 1 := by
  rw [add]
  split <;> simp only [total] <;> omega

theorem ScriptSummary.total_foldl_add (xs : List Exchange) (summary : ScriptSummary) :
    (xs.foldl add summary).total = summary.total + xs.length := by
  induction xs generalizing summary with
  | nil => rfl
  | cons x xs ih => rw [List.foldl_cons, ih, total_add, List.length_cons, Nat.add_assoc, Nat.add_comm 1]

/-- What comes of the first statement of a script: it is counted and the others follow, or it fails and
    is the last one. -/
inductive ScriptStep (summary : ScriptSummary) (sqls : List String) (l : Option CaseRule) (x : Exchange)
    (xs : List Exchange) (result : Except Failure ScriptSummary) (l' : Option CaseRule) : Prop
  | counted (hx : x.broke = false)
      (hnext : (runCounting (summary.add x) sqls).Course l xs result l')
  | broken {e : DatabaseError} (hx : x.broke = true) (he : x.error? = some e) (hxs : xs = [])
      (hresult : result = .error (.database e))

theorem course_runCounting_cons (hc : (runCounting summary (sql :: sqls)).Course l xs result l') :
    ∃ x ys, xs = x :: ys ∧ x.request = .execute sql [] ∧
      ScriptStep summary sqls l x ys result l' := by
  rcases course_execute_bind hc with ⟨n, ys, rfl, hnext⟩ | ⟨e, ys, rfl, hnext⟩
  · exact ⟨_, ys, rfl, rfl, .counted rfl hnext⟩
  · refine ⟨_, ys, rfl, rfl, ?_⟩
    have hbroke : Exchange.broke ⟨.execute sql [], .error e⟩ = !e.isExecution := rfl
    by_cases hexec : e.isExecution
    · rw [Bool.true_and, if_pos hexec] at hnext
      exact .counted (by rw [hbroke, hexec]; rfl) hnext
    · rw [Bool.true_and, if_neg hexec] at hnext
      exact .broken (by rw [hbroke, eq_false_of_ne_true hexec]; rfl) rfl hnext.1 hnext.2.1

/-- Statements are sent in turn and counted, and only a failure that is no rejection ends them. -/
theorem runCounting_runs (hc : (runCounting summary sqls).Course l xs result l') :
    InTurn Exchange.broke (sqls.map fun sql => .execute sql []) xs ∧
      ((∀ x ∈ xs, x.broke = false) → result = .ok (xs.foldl .add summary)) ∧
      ∀ x ∈ xs, x.broke = true → ∃ e, x.error? = some e ∧ result = .error (.database e) := by
  induction sqls generalizing summary l xs with
  | nil =>
    obtain ⟨rfl, rfl, _⟩ := Operation.course_pure_iff.1 hc
    exact ⟨rfl, fun _ => rfl, List.forall_mem_nil _⟩
  | cons sql sqls ih =>
    obtain ⟨x, ys, rfl, hrequest, hstep⟩ := course_runCounting_cons hc
    cases hstep with
    | counted hx hnext =>
      -- The others follow, and are counted on from the summary with this statement.
      obtain ⟨hturn, hfinished, hbroken⟩ := ih hnext
      refine ⟨⟨hrequest, by rwa [hx]⟩, fun hxs => ?_, List.forall_mem_cons.2 ⟨fun h => ?_, hbroken⟩⟩
      · exact hfinished (List.forall_mem_cons.1 hxs).2
      · cases hx.symm.trans h
    | @broken e hx he hxs hresult =>
      subst hxs
      refine ⟨⟨hrequest, by rw [hx]; rfl⟩, fun hxs => ?_, List.forall_mem_singleton.2 fun _ => ?_⟩
      · cases hx.symm.trans (hxs x List.mem_cons_self)
      · exact ⟨e, he, hresult⟩

/-- How a script of the statements `sqls` has run that made the exchanges `xs`. -/
structure ScriptRun (sqls : List String) (xs : List Exchange) (result : Except Failure ScriptSummary) :
    Prop where
  /-- The statements are sent in order, up to the first failure that is no rejection. -/
  inTurn : InTurn Exchange.broke (sqls.map fun sql => .execute sql []) xs
  /-- If there is none, all are sent and counted. -/
  finished : (∀ x ∈ xs, x.broke = false) → xs.map Exchange.request = sqls.map (fun sql => .execute sql []) ∧
    ∃ summary, result = .ok summary ∧ summary.executed = xs.countP (!·.failed) ∧
      summary.failed = xs.countP Exchange.rejected ∧ summary.total = sqls.length
  /-- If there is one, it is the last that is sent and the error of the script. -/
  broken : ∀ x ∈ xs, x.broke = true → xs.getLast? = some x ∧
    ∃ e, x.error? = some e ∧ result = .error (.database e)

theorem runCounting_scriptRun (hc : (runCounting {} sqls).Course l xs result l') :
    ScriptRun sqls xs result := by
  obtain ⟨hturn, hfinished, hbroken⟩ := runCounting_runs hc
  refine ⟨hturn, fun hxs => ?_, fun x hx hbroke => ⟨?_, hbroken x hx hbroke⟩⟩
  · have hrequests := hturn.requests_eq hxs
    have hcounts := ScriptSummary.foldl_add hxs {}
    have hlength : xs.length = sqls.length := by
      rw [← List.length_map Exchange.request, hrequests, List.length_map]
    refine ⟨hrequests, _, hfinished hxs, ?_, ?_, ?_⟩
    · rw [hcounts]
      exact Nat.zero_add _
    · rw [hcounts]
      exact Nat.zero_add _
    · rw [ScriptSummary.total_foldl_add, hlength]
      exact Nat.zero_add _
  · -- What breaks the script is what it stops at, since it goes on after all before.
    obtain ⟨ys, last, rfl, -, hys⟩ := hturn.exists_stop ⟨x, hx, hbroke⟩
    rcases List.mem_append.1 hx with hx | hx
    · cases (hys x hx).symm.trans hbroke
    · rw [List.getLast?_concat, List.mem_singleton.1 hx]

theorem executeScript_eq {file? : Option (List UInt8)} {text : List Char}
    (hfile : file?.bind Text.strictText? = some text) :
    executeScript file? = runCounting {} (Script.split (String.ofList text)) := by
  obtain ⟨bytes, rfl, hbytes⟩ := Option.bind_eq_some_iff.1 hfile
  rw [executeScript, hbytes]
  rfl

/-- The script of a file that can be read runs in order, on any connection. -/
theorem executeScript_runs (file? : Option (List UInt8)) (text : List Char)
    (hfile : file?.bind Text.strictText? = some text) (c : Connection σ) (learned : Option CaseRule)
    (s : σ) :
    let t := (executeScript file?).transcript c learned s
    ScriptRun (Script.split (String.ofList text)) t.exchanges t.result.1 := by
  rw [executeScript_eq hfile]
  exact runCounting_scriptRun (Operation.transcript_course _ c learned s)

/-! ## A script that is cut short -/

namespace Interrupted

/-- The database rejects one statement, and the connection is lost at another one. -/
def connection : Connection Unit where
  answer _ r := (match r with
    | .execute "b" _ => .error (.execution "b" "rejected")
    | .execute "c" _ => .error (.connection "lost")
    | .execute _ _ => .ok 1
    | _ => .error (.metadata "not asked for"), ())

end Interrupted

open Interrupted in
/-- The rejection is passed over, the loss is not, and the last statement is not sent. -/
theorem executeScript_runs_interrupted :
    let t := (executeScript (some (Text.utf8 "a;\nb;\nc;\nd".toList))).transcript connection none ()
    ScriptRun ["a", "b", "c", "d"] t.exchanges t.result.1 ∧
      t.exchanges.map Exchange.request = ["a", "b", "c"].map (fun sql => .execute sql []) ∧
      t.result.1 = .error (.database (.connection "lost")) := by
  have hsplit : Script.split (String.ofList "a;\nb;\nc;\nd".toList) = ["a", "b", "c", "d"] := by decide
  have hfile : (some (Text.utf8 "a;\nb;\nc;\nd".toList)).bind Text.strictText? =
      some "a;\nb;\nc;\nd".toList := Text.strictText?_utf8 _
  have hrun := executeScript_eq hfile
  have hruns := executeScript_runs _ _ hfile connection none ()
  rw [hsplit] at hrun hruns
  refine ⟨hruns, ?_, ?_⟩
  · rw [hrun]
    rfl
  · rw [hrun]
    rfl

end Editor

end SchemaChange
