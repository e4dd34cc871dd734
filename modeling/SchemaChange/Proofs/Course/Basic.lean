import SchemaChange.Connection.Operation

/-!
# Courses of dialogues

A *course* is one way a dialogue may go, whatever is replied: what is asked and answered, and the
result in the end. What holds of every course holds of the dialogue with every connection, and a
course does not speak of connections at all.

* `Dialogue.run_course`, `Dialogue.run_answers`: the dialogue with a connection takes a course that
  the connection answers;
* `Dialogue.Course.run_eq`: it takes no other;
* `Operation.course_bind_iff`: the courses of an operation that goes on after another one;
* `Operation.Asks`: what an operation asks at most;
* `Operation.Plain`: an operation that is made of requests alone, and so has nothing to do with the case
  rule.
-/

namespace SchemaChange

/-! ## Exchanges -/

namespace Exchange

/-- The error that came back, if one did. -/
def error? (x : Exchange) : Option DatabaseError :=
  match x.reply with
  | .ok _ => none
  | .error e => some e

/-- Whether an error came back. -/
def failed (x : Exchange) : Bool :=
  x.error?.isSome

/-- Whether the database rejected the statement, as opposed to any other failure. -/
def rejected (x : Exchange) : Bool :=
  x.error?.any DatabaseError.isExecution

/-- Whether there was a failure other than a rejection. -/
def broke (x : Exchange) : Bool :=
  x.error?.any (!·.isExecution)

/-- What went through has no error. -/
theorem failed_eq_false_iff {x : Exchange} : x.failed = false ↔ x.error? = none := by
  simp [failed]

theorem failed_of_error? {x : Exchange} {e : DatabaseError} (h : x.error? = some e) :
    x.failed = true := by
  simp [failed, h]

/-- An error is a rejection if it says that a statement was rejected. -/
theorem rejected_of_error? {x : Exchange} {e : DatabaseError} (h : x.error? = some e) :
    x.rejected = e.isExecution := by
  simp [rejected, h]

theorem broke_of_error? {x : Exchange} {e : DatabaseError} (h : x.error? = some e) :
    x.broke = !e.isExecution := by
  simp [broke, h]

theorem rejected_of_not_failed {x : Exchange} (h : x.failed = false) : x.rejected = false := by
  simp [rejected, failed_eq_false_iff.1 h]

theorem broke_of_not_failed {x : Exchange} (h : x.failed = false) : x.broke = false := by
  simp [broke, failed_eq_false_iff.1 h]

/-- A failure is a rejection or not. -/
theorem failed_eq (x : Exchange) : x.failed = (x.rejected || x.broke) := by
  cases h : x.error? with
  | none => simp [failed, rejected, broke, h]
  | some e => simp [failed, rejected, broke, h]

end Exchange

/-! ## Courses -/

/-- The connection, in the state `s`, answers the exchanges `xs` and is then in the state `s'`. -/
inductive Connection.Answers {σ : Type} (c : Connection σ) : σ → List Exchange → σ → Prop
  | nil (s : σ) : Answers c s [] s
  | cons {s s' : σ} {r : Request} {xs : List Exchange} :
      Answers c (c.answer s r).2 xs s' → Answers c s (⟨r, (c.answer s r).1⟩ :: xs) s'

namespace Connection

variable {σ : Type} {c : Connection σ}

theorem answers_nil_iff {s s' : σ} : c.Answers s [] s' ↔ s' = s := by
  constructor
  · rintro ⟨⟩
    rfl
  · rintro rfl
    exact .nil _

theorem answers_cons_iff {s s' : σ} {x : Exchange} {xs : List Exchange} :
    c.Answers s (x :: xs) s' ↔
      ∃ s₁, c.answer s x.request = (x.reply, s₁) ∧ c.Answers s₁ xs s' := by
  constructor
  · intro h
    cases h with
    | cons h => exact ⟨_, rfl, h⟩
  · rintro ⟨s₁, h₁, h⟩
    obtain ⟨r, reply⟩ := x
    dsimp only at h₁
    obtain ⟨rfl, rfl⟩ := Prod.ext_iff.1 h₁
    exact .cons h

/-- Exchanges one after the other are answered through a state in between. -/
theorem answers_append_iff {s s' : σ} {xs ys : List Exchange} :
    c.Answers s (xs ++ ys) s' ↔ ∃ s₁, c.Answers s xs s₁ ∧ c.Answers s₁ ys s' := by
  induction xs generalizing s with
  | nil => simp [answers_nil_iff]
  | cons x xs ih =>
    simp only [List.cons_append, answers_cons_iff, ih]
    constructor
    · rintro ⟨s₁, h₁, s₂, h₂, h⟩
      exact ⟨s₂, ⟨s₁, h₁, h₂⟩, h⟩
    · rintro ⟨s₂, ⟨s₁, h₁, h₂⟩, h⟩
      exact ⟨s₁, h₁, s₂, h₂, h⟩

end Connection

namespace Dialogue

variable {α β σ : Type}

/-- A way a dialogue may go: what is asked and answered, and the result. -/
inductive Course : Dialogue α → List Exchange → α → Prop
  | done (a : α) : Course (.done a) [] a
  | ask {r : Request} {next : r.Reply → Dialogue α} {reply : r.Reply} {xs : List Exchange} {a : α} :
      Course (next reply) xs a → Course (.ask r next) (⟨r, reply⟩ :: xs) a

theorem course_done_iff {a b : α} {xs : List Exchange} :
    (done a).Course xs b ↔ xs = [] ∧ b = a := by
  constructor
  · rintro ⟨⟩
    exact ⟨rfl, rfl⟩
  · rintro ⟨rfl, rfl⟩
    exact .done _

/-- A dialogue that asks goes on with one of the replies. -/
theorem course_ask_iff {r : Request} {next : r.Reply → Dialogue α} {xs : List Exchange} {a : α} :
    (ask r next).Course xs a ↔
      ∃ reply ys, xs = ⟨r, reply⟩ :: ys ∧ (next reply).Course ys a := by
  constructor
  · rintro ⟨⟩
    exact ⟨_, _, rfl, ‹_›⟩
  · rintro ⟨reply, ys, rfl, h⟩
    exact .ask h

/-- A course of one dialogue after the other is a course of each. -/
theorem course_bind_iff {d : Dialogue α} {f : α → Dialogue β} {xs : List Exchange} {b : β} :
    (d.bind f).Course xs b ↔
      ∃ a ys zs, d.Course ys a ∧ (f a).Course zs b ∧ xs = ys ++ zs := by
  induction d generalizing xs with
  | done a =>
    constructor
    · exact fun h => ⟨a, [], xs, .done a, h, rfl⟩
    · rintro ⟨_, _, _, ⟨⟩, h, rfl⟩
      exact h
  | ask r next ih =>
    -- The first exchange is one of `d`, whichever course `f` takes in the end.
    simp only [bind_ask, course_ask_iff, ih]
    constructor
    · rintro ⟨reply, _, rfl, a, ys, zs, hd, hf, rfl⟩
      exact ⟨a, _, zs, ⟨reply, ys, rfl, hd⟩, hf, rfl⟩
    · rintro ⟨a, _, zs, ⟨reply, ys, rfl, hd⟩, hf, rfl⟩
      exact ⟨reply, _, rfl, a, ys, zs, hd, hf, rfl⟩

instance : LawfulMonad Dialogue :=
  .mk' _ bind_done_right (fun _ _ => rfl) bind_assoc

/-! ### Courses with a connection -/

/-- A run on a connection is one of the courses of the dialogue. -/
theorem run_course (c : Connection σ) (d : Dialogue α) (s : σ) :
    d.Course (d.run c s).exchanges (d.run c s).result := by
  induction d generalizing s with
  | done a => exact .done a
  | ask r next ih => exact .ask (ih _ _)

/-- The exchanges of a run are answered by the connection. -/
theorem run_answers (c : Connection σ) (d : Dialogue α) (s : σ) :
    c.Answers s (d.run c s).exchanges (d.run c s).state := by
  induction d generalizing s with
  | done a => exact .nil s
  | ask r next ih => exact .cons (ih _ _)

/-- The dialogue with a connection takes no course but the one that the connection answers. -/
theorem Course.run_eq {c : Connection σ} {d : Dialogue α} {xs : List Exchange} {a : α} {s s' : σ}
    (h : d.Course xs a) (ha : c.Answers s xs s') : d.run c s = ⟨a, xs, s'⟩ := by
  induction h generalizing s with
  | done a =>
    cases ha
    rfl
  | @ask r next reply xs a _ ih =>
    obtain ⟨s₁, h₁, ha⟩ := Connection.answers_cons_iff.1 ha
    have hrest := ih ha
    simp only [run, h₁, hrest]

end Dialogue

/-! ## Courses of operations -/

namespace Operation

variable {α β σ : Type} {l l' : Option CaseRule} {xs : List Exchange} {r : Except Failure α}

/-- A way an operation may go: with the case rule `l` learned before it, it makes the exchanges `xs`
    and ends in `r`, with the case rule `l'` learned. -/
def Course (o : Operation α) (l : Option CaseRule) (xs : List Exchange) (r : Except Failure α)
    (l' : Option CaseRule) : Prop :=
  (o.dialogue l).Course xs (r, l')

/-- What an operation does with a connection. -/
def transcript (o : Operation α) (c : Connection σ) (l : Option CaseRule) (s : σ) :
    Dialogue.Transcript (Except Failure α × Option CaseRule) σ :=
  (o.dialogue l).run c s

/-- A transcript shows one of the courses of the operation. -/
theorem transcript_course (o : Operation α) (c : Connection σ) (l : Option CaseRule) (s : σ) :
    o.Course l (o.transcript c l s).exchanges (o.transcript c l s).result.1
      (o.transcript c l s).result.2 :=
  Dialogue.run_course c _ s

/-- Its exchanges are answered by the connection. -/
theorem transcript_answers (o : Operation α) (c : Connection σ) (l : Option CaseRule) (s : σ) :
    c.Answers s (o.transcript c l s).exchanges (o.transcript c l s).state :=
  Dialogue.run_answers c _ s

/-- A course that the connection answers is the transcript. -/
theorem Course.transcript_eq {o : Operation α} {c : Connection σ} {s s' : σ}
    (h : o.Course l xs r l') (ha : c.Answers s xs s') :
    o.transcript c l s = ⟨(r, l'), xs, s'⟩ :=
  Dialogue.Course.run_eq h ha

theorem dialogue_bind (o : Operation α) (f : α → Operation β) (l : Option CaseRule) :
    (o >>= f).dialogue l = (o.dialogue l).bind fun
      | (.ok a, l) => (f a).dialogue l
      | (.error e, l) => .done (.error e, l) := by
  refine congrArg (Dialogue.bind (o.dialogue l)) ?_
  funext ⟨r, l⟩
  cases r <;> rfl

/-- An operation that goes on after another one takes a course of each, unless the first one fails. -/
theorem course_bind_iff {o : Operation α} {f : α → Operation β} {r : Except Failure β} :
    (o >>= f).Course l xs r l' ↔
      (∃ a l₁ ys zs, o.Course l ys (.ok a) l₁ ∧ (f a).Course l₁ zs r l' ∧ xs = ys ++ zs) ∨
        ∃ e, o.Course l xs (.error e) l' ∧ r = .error e := by
  simp only [Course, dialogue_bind, Dialogue.course_bind_iff]
  constructor
  · rintro ⟨⟨a | a, l₁⟩, ys, zs, ho, hf, rfl⟩
    · obtain ⟨rfl, h⟩ := Dialogue.course_done_iff.1 hf
      obtain ⟨rfl, rfl⟩ := Prod.mk.inj h
      exact .inr ⟨a, by simpa using ho, rfl⟩
    · exact .inl ⟨a, l₁, ys, zs, ho, hf, rfl⟩
  · rintro (⟨a, l₁, ys, zs, ho, hf, rfl⟩ | ⟨e, ho, rfl⟩)
    · exact ⟨(.ok a, l₁), ys, zs, ho, hf, rfl⟩
    · exact ⟨(.error e, l'), xs, [], ho, .done _, by simp⟩

/-- If it succeeds, both do. -/
theorem course_bind_ok {o : Operation α} {f : α → Operation β} {b : β}
    (h : (o >>= f).Course l xs (.ok b) l') :
    ∃ a l₁ ys zs, o.Course l ys (.ok a) l₁ ∧ (f a).Course l₁ zs (.ok b) l' ∧ xs = ys ++ zs := by
  rcases course_bind_iff.1 h with hboth | ⟨_, _, hfail⟩
  · exact hboth
  · cases hfail

@[simp] theorem course_pure_iff {a : α} :
    (pure a : Operation α).Course l xs r l' ↔ xs = [] ∧ r = .ok a ∧ l' = l := by
  refine Dialogue.course_done_iff.trans ?_
  rw [Prod.mk.injEq]

@[simp] theorem course_throw_iff {e : Failure} :
    (throw e : Operation α).Course l xs r l' ↔ xs = [] ∧ r = .error e ∧ l' = l := by
  refine Dialogue.course_done_iff.trans ?_
  rw [Prod.mk.injEq]

/-- An operation that begins by recalling what was learned. -/
theorem course_get_bind_iff {f : Option CaseRule → Operation β} {r : Except Failure β} :
    ((get : Operation (Option CaseRule)) >>= f).Course l xs r l' ↔ (f l).Course l xs r l' :=
  Iff.rfl

/-- An operation that begins by learning. -/
theorem course_set_bind_iff {l₁ : Option CaseRule} {f : PUnit → Operation β} {r : Except Failure β} :
    ((set l₁ : Operation PUnit) >>= f).Course l xs r l' ↔ (f ⟨⟩).Course l₁ xs r l' :=
  Iff.rfl

/-- An operation that begins with a request goes on with the reply. -/
theorem course_attempt_bind_iff {q : Request} {f : q.Reply → Operation β} {r : Except Failure β} :
    (attempt q >>= f).Course l xs r l' ↔
      ∃ reply ys, xs = ⟨q, reply⟩ :: ys ∧ (f reply).Course l ys r l' := by
  have h : (attempt q >>= f).dialogue l = .ask q fun reply => (f reply).dialogue l := rfl
  rw [Course, h, Dialogue.course_ask_iff]
  rfl

/-- Building a statement exchanges nothing with the database. -/
theorem course_built_iff {b : Except BuildError α} :
    (built b).Course l xs r l' ↔ xs = [] ∧ r = b.mapError .build ∧ l' = l := by
  cases b with
  | ok a => exact course_pure_iff
  | error e => exact course_throw_iff

/-- What is built asks nothing and learns nothing. -/
theorem course_built_ok {b : Except BuildError α} {a : α} (h : (built b).Course l xs (.ok a) l') :
    xs = [] ∧ b = .ok a ∧ l' = l := by
  obtain ⟨hxs, hmade, hl⟩ := course_built_iff.1 h
  cases b with
  | ok _ => exact ⟨hxs, congrArg Except.ok (Except.ok.inj hmade).symm, hl⟩
  | error _ => cases hmade

/-! ### What is asked -/

/-- Whatever is replied, `P` holds of everything that the operation asks. -/
def Asks (P : Request → Prop) (o : Operation α) : Prop :=
  ∀ ⦃l xs r l'⦄, o.Course l xs r l' → ∀ x ∈ xs, P x.request

namespace Asks

variable {P : Request → Prop}

theorem pure (a : α) : Asks P (pure a) := by
  intro l xs r l' hc x hx
  rw [(course_pure_iff.1 hc).1] at hx
  exact absurd hx List.not_mem_nil

theorem fail (f : Failure) : Asks P (throw f : Operation α) := by
  intro l xs r l' hc x hx
  rw [(course_throw_iff.1 hc).1] at hx
  exact absurd hx List.not_mem_nil

/-- What holds of all requests of two operations holds of them one after the other. -/
theorem bind {o : Operation α} {f : α → Operation β} (ho : Asks P o) (hf : ∀ a, Asks P (f a)) :
    Asks P (o >>= f) := by
  intro l xs r l' hc x hx
  rcases course_bind_iff.1 hc with ⟨a, l₁, ys, zs, ha, hnext, rfl⟩ | ⟨e, hfail, rfl⟩
  · exact (List.mem_append.1 hx).elim (ho ha x) (hf a hnext x)
  · exact ho hfail x hx

/-- One request and what is done with its reply. -/
theorem attempt_bind {q : Request} {f : q.Reply → Operation α} (hq : P q)
    (hf : ∀ reply, Asks P (f reply)) : Asks P (attempt q >>= f) := by
  intro l xs r l' hc x hx
  obtain ⟨reply, ys, rfl, hnext⟩ := course_attempt_bind_iff.1 hc
  rcases List.mem_cons.1 hx with rfl | hx
  · exact hq
  · exact hf reply hnext x hx

end Asks

/-! ### Requests alone -/

/-- The operation is made of requests of which `P` holds: it neither recalls what was learned nor learns
    anything itself. -/
inductive Plain (P : Request → Prop) : {α : Type} → Operation α → Prop
  | pure {α : Type} (a : α) : Plain P (pure a)
  | fail {α : Type} (f : Failure) : Plain P (throw f : Operation α)
  | bind {α β : Type} {o : Operation α} {f : α → Operation β} :
      Plain P o → (∀ a, Plain P (f a)) → Plain P (o >>= f)
  | attempt_bind {α : Type} {q : Request} {f : q.Reply → Operation α} :
      P q → (∀ reply, Plain P (f reply)) → Plain P (attempt q >>= f)

namespace Plain

variable {P : Request → Prop} {o : Operation α}

/-- A plain operation asks nothing else. -/
theorem asks (h : Plain P o) : o.Asks P := by
  induction h with
  | pure a => exact .pure a
  | fail f => exact .fail f
  | bind _ _ ho hf => exact ho.bind hf
  | attempt_bind hq _ hf => exact .attempt_bind hq hf

theorem mono {Q : Request → Prop} (h : Plain P o) (hPQ : ∀ q, P q → Q q) : Plain Q o := by
  induction h with
  | pure a => exact .pure a
  | fail f => exact .fail f
  | bind _ _ ho hf => exact ho.bind hf
  | attempt_bind hq _ hf => exact .attempt_bind (hPQ _ hq) hf

/-- The operation goes the same way whatever has been learned, and leaves that as it is. -/
theorem course (h : Plain P o) (hc : o.Course l xs r l') : l' = l ∧ ∀ l₁, o.Course l₁ xs r l₁ := by
  induction h generalizing l xs l' with
  | pure a =>
    obtain ⟨rfl, rfl, rfl⟩ := course_pure_iff.1 hc
    exact ⟨rfl, fun _ => course_pure_iff.2 ⟨rfl, rfl, rfl⟩⟩
  | fail f =>
    obtain ⟨rfl, rfl, rfl⟩ := course_throw_iff.1 hc
    exact ⟨rfl, fun _ => course_throw_iff.2 ⟨rfl, rfl, rfl⟩⟩
  | bind _ _ ho hf =>
    rcases course_bind_iff.1 hc with ⟨a, l₂, ys, zs, ha, hnext, rfl⟩ | ⟨e, hfail, rfl⟩
    · obtain ⟨rfl, hany⟩ := ho ha
      obtain ⟨rfl, hany'⟩ := hf a hnext
      exact ⟨rfl, fun l₁ => course_bind_iff.2 (.inl ⟨a, l₁, ys, zs, hany l₁, hany' l₁, rfl⟩)⟩
    · obtain ⟨rfl, hany⟩ := ho hfail
      exact ⟨rfl, fun l₁ => course_bind_iff.2 (.inr ⟨e, hany l₁, rfl⟩)⟩
  | attempt_bind _ _ hf =>
    obtain ⟨reply, ys, rfl, hnext⟩ := course_attempt_bind_iff.1 hc
    obtain ⟨rfl, hany⟩ := hf reply hnext
    exact ⟨rfl, fun l₁ => course_attempt_bind_iff.2 ⟨reply, ys, rfl, hany l₁⟩⟩

end Plain

end Operation

end SchemaChange
