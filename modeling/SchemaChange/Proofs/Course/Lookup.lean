import SchemaChange.Inspector
import SchemaChange.Proofs.Course.Basic

/-!
# Courses of look-ups

* `Inspector.course_inCatalog_iff`: a look-up asks the catalog if there is one, and fails at once if
  there is none;
* `Inspector.course_caseRule_iff`: the case rule is looked up only if it is not known yet
  (`Inspector.course_caseRule_iff_of_known`).
-/

namespace SchemaChange

/-! ## Errors of look-ups -/

namespace DatabaseError

variable (context : String) (e : DatabaseError)

theorem inCatalog_isExecution : (e.inCatalog context).isExecution = false := by
  cases e <;> rfl

theorem inCatalog_isConnection : (e.inCatalog context).isConnection = e.isConnection := by
  cases e <;> rfl

theorem inCatalog_isMetadata : (e.inCatalog context).isMetadata = !e.isConnection := by
  cases e <;> rfl

end DatabaseError

/-- The failure of an operation that needs a catalog where there is none. -/
def Inspector.noCatalog (i : Inspector) : Failure :=
  .database (.metadata ("driver '" ++ i.endpoint.driverName ++ "' does not expose a schema catalog"))

/-! ## Courses -/

variable {l l' : Option CaseRule} {xs : List Exchange}

/-- A look-up is one request. -/
theorem Operation.course_lookUp_iff {context : String} {q : Request}
    {r : Except Failure q.Answer} :
    (lookUp context q).Course l xs r l' ↔ ∃ reply : q.Reply, xs = [⟨q, reply⟩] ∧ l' = l ∧
      r = reply.mapError fun e => .database (e.inCatalog context) := by
  refine course_attempt_bind_iff.trans ?_
  constructor
  · rintro ⟨e | a, ys, rfl, h⟩
    · obtain ⟨rfl, rfl, rfl⟩ := course_throw_iff.1 h
      exact ⟨.error e, rfl, rfl, rfl⟩
    · obtain ⟨rfl, rfl, rfl⟩ := course_pure_iff.1 h
      exact ⟨.ok a, rfl, rfl, rfl⟩
  · rintro ⟨e | a, rfl, rfl, rfl⟩
    · exact ⟨.error e, [], rfl, course_throw_iff.2 ⟨rfl, rfl, rfl⟩⟩
    · exact ⟨.ok a, [], rfl, course_pure_iff.2 ⟨rfl, rfl, rfl⟩⟩

theorem Operation.lookUp_asks {context : String} {q : Request} {P : Request → Prop} (hq : P q) :
    (lookUp context q).Asks P := by
  intro l xs r l' hc x hx
  obtain ⟨reply, rfl, _⟩ := course_lookUp_iff.1 hc
  rw [List.mem_singleton.1 hx]
  exact hq

namespace Inspector

variable {i : Inspector}

/-- A look-up in the catalog. -/
theorem course_inCatalog_iff {context : String} {q : Request} {r : Except Failure q.Answer} :
    (i.inCatalog context q).Course l xs r l' ↔ l' = l ∧
      if i.endpoint.hasCatalog then ∃ reply : q.Reply, xs = [⟨q, reply⟩] ∧
        r = reply.mapError fun e => .database (e.inCatalog context)
      else xs = [] ∧ r = .error i.noCatalog := by
  unfold inCatalog requireCatalog
  split
  · refine Operation.course_lookUp_iff.trans ?_
    constructor
    · rintro ⟨reply, rfl, rfl, rfl⟩
      exact ⟨rfl, reply, rfl, rfl⟩
    · rintro ⟨rfl, reply, rfl, rfl⟩
      exact ⟨reply, rfl, rfl, rfl⟩
  · refine (Operation.course_throw_iff (e := i.noCatalog)).trans ?_
    constructor
    · rintro ⟨rfl, rfl, rfl⟩
      exact ⟨rfl, rfl, rfl⟩
    · rintro ⟨rfl, rfl, rfl⟩
      exact ⟨rfl, rfl, rfl⟩

/-- The case rule is an option, or has been learned, or is looked up and then learned. -/
theorem course_caseRule_iff {r : Except Failure CaseRule} :
    i.caseRule.Course l xs r l' ↔
      match i.options.case?.or l with
      | some rule => xs = [] ∧ r = .ok rule ∧ l' = l
      | none => (i.inCatalog "identifier case lookup failed" .identifierCase).Course l xs r l ∧
          l' = r.toOption := by
  unfold caseRule
  cases i.options.case? with
  | some rule => exact Operation.course_pure_iff
  | none =>
    cases l with
    | some rule => exact Operation.course_pure_iff
    | none =>
      refine Operation.course_get_bind_iff.trans (Operation.course_bind_iff.trans ?_)
      constructor
      · rintro (⟨rule, l₁, ys, zs, hask, h, rfl⟩ | ⟨e, hask, rfl⟩)
        · obtain ⟨rfl, _⟩ := course_inCatalog_iff.1 hask
          have h := Operation.course_set_bind_iff.1 h
          obtain ⟨rfl, rfl, rfl⟩ := Operation.course_pure_iff.1 h
          exact ⟨by rwa [List.append_nil], rfl⟩
        · obtain ⟨rfl, _⟩ := course_inCatalog_iff.1 hask
          exact ⟨hask, rfl⟩
      · rintro ⟨hask, rfl⟩
        cases r with
        | error e => exact .inr ⟨e, hask, rfl⟩
        | ok rule =>
          refine .inl ⟨rule, none, xs, [], hask, ?_, (List.append_nil xs).symm⟩
          refine Operation.course_set_bind_iff.2 ?_
          exact Operation.course_pure_iff.2 ⟨rfl, rfl, rfl⟩

/-- A rule that is known is there without asking. -/
theorem course_caseRule_iff_of_known {rule : CaseRule} (h : i.options.case?.or l = some rule)
    {r : Except Failure CaseRule} :
    i.caseRule.Course l xs r l' ↔ xs = [] ∧ r = .ok rule ∧ l' = l := by
  rw [course_caseRule_iff, h]

/-- The builder of an inspector, once it is told how names are folded. -/
def toldBuilder (i : Inspector) (rule : CaseRule) : Builder :=
  ⟨i.dialect, { i.options with case? := some rule }⟩

/-- A builder goes by the rule that is known. -/
theorem builder_eq_of_known {rule : CaseRule} (h : i.options.case?.or l = some rule)
    {r : Except Failure Builder} (hc : i.builder.Course l xs r l') : r = .ok (i.toldBuilder rule) := by
  rcases Operation.course_bind_iff.1 hc with ⟨rule', _, _, _, hrule, hpure, -⟩ | ⟨e, hrule, -⟩
  · obtain ⟨-, hrule, -⟩ := (course_caseRule_iff_of_known h).1 hrule
    cases hrule
    exact (Operation.course_pure_iff.1 hpure).2.1
  · cases ((course_caseRule_iff_of_known h).1 hrule).2.1

theorem inCatalog_asks {context : String} {q : Request} {P : Request → Prop} (hq : P q) :
    (i.inCatalog context q).Asks P := by
  unfold inCatalog requireCatalog
  split
  · exact (Operation.Asks.pure _).bind fun _ => Operation.lookUp_asks hq
  · exact (Operation.Asks.fail _).bind fun _ => Operation.lookUp_asks hq

theorem caseRule_asks {P : Request → Prop} (hP : P .identifierCase) : i.caseRule.Asks P := by
  intro l xs r l' hc x hx
  have hc := course_caseRule_iff.1 hc
  split at hc
  · rw [hc.1] at hx
    exact absurd hx List.not_mem_nil
  · exact inCatalog_asks hP hc.1 x hx

end Inspector

end SchemaChange
