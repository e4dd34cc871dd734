import SchemaChange.Editor.Session
import SchemaChange.Proofs.Call.FailedLookup
import SchemaChange.Proofs.Course.Resolution

/-!
# The case rule of a session

An editor asks the database for its case rule when it first needs it, and again only as long as the
database has not told it. From then on it goes by what it was told, as it would if that had been set in
its options, whatever the database would say by now.

* `Use.perform_resolves`, `Use.perform_follows`: both of every use of an editor;
* `Editor.session_resolves`: all of it of every session.
-/

namespace SchemaChange

variable {α σ : Type} {i : Inspector} {copies : Bool} {l l' : Option CaseRule} {xs : List Exchange}

/-! ## Calls -/

namespace Inquiry

variable {o : Inspector.Setting → Operation α}

theorem resolves (h : Inquiry i o) (w : Inspector.Setting) : Resolves (i.under w) (o w) := by
  induction h with
  | pure a => exact .plain (.pure a)
  | fail f _ => exact .plain (.fail f)
  | bind _ _ ho hf => exact ho.bind hf
  | lookUp context q hq _ =>
    exact .plain (.lookUp (ne_of_apply_ne Request.introspects (hq ▸ Bool.false_ne_true)))
  | inCatalog context q hq =>
    exact .plain (.inCatalog (ne_of_apply_ne Request.readsSchema (hq ▸ Bool.true_eq_false.mp)))
  | caseRule => exact .caseRule

/-- A rule in the options is as good as a rule that was learned. -/
theorem follows (h : Inquiry i o) {has : Bool} {case? case?' : Option CaseRule} {rule : CaseRule}
    (hknown : case?.or l = some rule) (hknown' : case?'.or l = some rule) :
    Follows l (o ⟨has, case?⟩) (o ⟨has, case?'⟩) := by
  induction h with
  | pure a => exact .plain (P := fun _ => True) (.pure a)
  | fail f _ => exact .plain (P := fun _ => True) (.fail f)
  | bind _ _ ho hf => exact ho.bind hf
  | lookUp context q _ _ => exact .plain (P := fun _ => True) (.lookUp trivial)
  | inCatalog context q _ => exact .plain (P := fun _ => True) (.inCatalog trivial)
  | caseRule => exact .caseRule hknown hknown'

end Inquiry

namespace Staged

variable {fallback : α} {o : Inspector.Setting → Bool → Operation α}

theorem resolves (h : Staged i copies fallback o) (w : Inspector.Setting) (ignoring : Bool) :
    Resolves (i.under w) (o w ignoring) := by
  induction h with
  | send h =>
    exact .plain ((h.plain ignoring).mono fun q hq =>
      ne_of_apply_ne (Request.looksUp copies) (hq ▸ Bool.false_ne_true))
  | inquire ho _ ih => exact (ho.resolves w).bind ih

theorem follows (h : Staged i copies fallback o) {has : Bool} {case? case?' : Option CaseRule}
    {rule : CaseRule} (hknown : case?.or l = some rule) (hknown' : case?'.or l = some rule)
    (ignoring : Bool) : Follows l (o ⟨has, case?⟩ ignoring) (o ⟨has, case?'⟩ ignoring) := by
  induction h with
  | send h => exact .plain (h.plain ignoring)
  | inquire ho _ ih => exact (ho.follows hknown hknown').bind ih

end Staged

/-! ## Uses -/

theorem Operation.request_plain {P : Request → Prop} {q : Request} (hq : P q) : (request q).Plain P :=
  .attempt_bind hq fun
    | .ok _ => .pure _
    | .error _ => .fail _

theorem Editor.newConnection_plain (e : Editor) : e.newConnection.Plain (· ≠ .identifierCase) := by
  unfold newConnection
  cases e.driver? with
  | none => exact .fail _
  | some driver =>
    exact .attempt_bind nofun fun
      | .ok _ => .pure _
      | .error _ => .fail _

theorem Editor.newConnection_withOptions (e : Editor) (options : BuilderOptions) :
    (e.withOptions options).newConnection = e.newConnection := by
  obtain ⟨i, config, driver?⟩ := e
  cases driver? with
  | none => rfl
  | some driver =>
    refine congrArg (Operation.attempt (.connect config) >>= ·) (funext fun reply => ?_)
    cases reply <;> rfl

namespace Use

variable (e : Editor) (u : Use)

/-- What is no call has nothing to do with the case rule. -/
theorem perform_plain (h : ∀ call, u ≠ .call call) : (u.perform e).Plain (· ≠ .identifierCase) := by
  cases u with
  | call call => exact absurd rfl (h call)
  | select sql => exact Operation.request_plain nofun
  | newConnection => exact e.newConnection_plain
  | close => exact Operation.request_plain nofun

theorem perform_resolves : Resolves e.inspector (u.perform e) := by
  cases u with
  | call call =>
    cases call with
    | edit change ignoring => exact (change.perform_staged e).resolves e.inspector.setting ignoring
    | question q => exact (q.answer_inquiry e.inspector).resolves e.inspector.setting
  | select _ | newConnection | close => exact .plain (perform_plain e _ fun _ h => by cases h)

/-- With its rule known, an editor is used as one that has the rule in its options. -/
theorem perform_follows {rule : CaseRule} (h : e.inspector.options.case?.or l = some rule) :
    Follows l (u.perform e)
      (u.perform (e.withOptions { e.inspector.options with case? := some rule })) := by
  have hset : (some rule).or l = some rule := rfl
  cases u with
  | call call =>
    cases call with
    | edit change ignoring => exact (change.perform_staged e).follows h hset ignoring
    | question q => exact (q.answer_inquiry e.inspector).follows h hset
  | select sql => exact .plain (perform_plain e (.select sql) fun _ h => by cases h)
  | newConnection =>
    rw [perform, perform, e.newConnection_withOptions]
    exact .plain e.newConnection_plain
  | close => exact .plain (perform_plain e .close fun _ h => by cases h)

/-- A look-up of the rule that fails is the last thing that is done, and its error that of the use. -/
theorem perform_heeds {r : Except Failure u.Result} (hc : (u.perform e).Course l xs r l')
    {ys zs : List Exchange} {x : Exchange} {error : DatabaseError} (hxs : xs = ys ++ x :: zs)
    (hx : x.request = .identifierCase) (herror : x.error? = some error) :
    zs = [] ∧ ∃ error', r = .error (.database error') ∧
      error'.isConnection = error.isConnection ∧ error'.isMetadata = !error.isConnection := by
  by_cases hcall : ∃ call, u = .call call
  · obtain ⟨call, rfl⟩ := hcall
    exact call.perform_heeds e hc hxs (by rw [hx]; rfl) herror
  · have hplain := perform_plain e u fun call h => hcall ⟨call, h⟩
    have hmem : x ∈ xs := hxs ▸ List.mem_append_right ys List.mem_cons_self
    exact absurd hx (hplain.asks hc x hmem)

/-- As long as there is no rule, a use asks for it or does without it, unless it fails because there is
    no catalog to ask. -/
theorem perform_unresolved (c : Connection σ) (s : σ) :
    let t := (u.perform e).transcript c none s
    (∃ x ∈ t.exchanges, x.request = .identifierCase) ∨
      e.inspector.endpoint.hasCatalog = false ∧ t.result.1 = .error e.inspector.noCatalog ∨
      ∀ rule?, (u.perform e).transcript c rule? s = ⟨(t.result.1, rule?), t.exchanges, t.state⟩ := by
  intro t
  by_cases hasked : ∃ x ∈ t.exchanges, x.request = .identifierCase
  · exact .inl hasked
  · have hunasked := (u.perform_resolves e).unasked ((u.perform e).transcript_course c none s)
      fun x hx hrequest => hasked ⟨x, hx, hrequest⟩
    refine .inr (hunasked.imp_right fun hany rule? => (hany rule?).transcript_eq ?_)
    exact (u.perform e).transcript_answers c none s

end Use

/-! ## Sessions -/

theorem Operation.course_regardless {o : Operation α} {r : Except Failure Unit}
    (hc : o.regardless.Course l xs r l') : r = .ok () ∧ ∃ r', o.Course l xs r' l' := by
  have hdialogue : o.regardless.dialogue l =
      (o.dialogue l).bind fun (_, l') => .done (.ok (), l') := by
    refine (Dialogue.bind_assoc (o.dialogue l) _ _).trans ?_
    congr 1
    funext ⟨r, l'⟩
    cases r <;> rfl
  rw [Operation.Course, hdialogue, Dialogue.course_bind_iff] at hc
  obtain ⟨⟨r', l₁⟩, ys, zs, ho, hdone, rfl⟩ := hc
  obtain ⟨rfl, h⟩ := Dialogue.course_done_iff.1 hdone
  obtain ⟨rfl, rfl⟩ := Prod.mk.inj h
  rw [List.append_nil]
  exact ⟨rfl, r', ho⟩

/-- A session is its first use, however that ends, and then the others. -/
theorem Editor.course_session_cons {e : Editor} {u : Use} {us : List Use} {r : Except Failure Unit}
    (hc : (e.session (u :: us)).Course l xs r l') :
    ∃ r' l₁ ys zs, (u.perform e).Course l ys r' l₁ ∧ (e.session us).Course l₁ zs r l' ∧
      xs = ys ++ zs := by
  rcases Operation.course_bind_iff.1 hc with ⟨_, l₁, ys, zs, hu, hrest, rfl⟩ | ⟨f, hu, _⟩
  · obtain ⟨_, r', hu⟩ := Operation.course_regardless hu
    exact ⟨r', l₁, ys, zs, hu, hrest, rfl⟩
  · cases (Operation.course_regardless hu).1

theorem Editor.session_resolution (e : Editor) {us : List Use} {r : Except Failure Unit}
    (hc : (e.session us).Course l xs r l') : Resolution e.inspector.options.case? l xs l' := by
  induction us generalizing l xs with
  | nil =>
    obtain ⟨rfl, _, rfl⟩ := Operation.course_pure_iff.1 hc
    exact .of_unasked (List.forall_mem_nil _)
  | cons u us ih =>
    obtain ⟨_, _, _, _, hu, hrest, rfl⟩ := course_session_cons hc
    exact ((u.perform_resolves e).resolution hu).append (ih hrest)

namespace Inspector

variable {rule : CaseRule}

/-- What is made of a rule that is known. -/
theorem course_known (h : i.options.case?.or l = some rule) (f : CaseRule → α) :
    (i.caseRule >>= fun rule => pure (f rule) : Operation α).Course l [] (.ok (f rule)) l :=
  Operation.course_bind_iff.2 (.inl ⟨rule, l, [], [],
    (course_caseRule_iff_of_known h).2 ⟨rfl, rfl, rfl⟩,
    Operation.course_pure_iff.2 ⟨rfl, rfl, rfl⟩, rfl⟩)

end Inspector

/-- An editor has been used on the connection `c`, which made the exchanges `xs` and left the database
    in the state `s` and the editor with what it has `learned`: the case rule is resolved at most
    once. -/
structure Editor.ResolvesOnce (e : Editor) (c : Connection σ) (xs : List Exchange)
    (learned : Option CaseRule) (s : σ) : Prop where
  /-- A rule in the options is not asked for. -/
  configured : e.inspector.options.case?.isSome → ∀ x ∈ xs, x.request ≠ .identifierCase
  /-- A rule that was told is not asked for again. -/
  once : xs.Pairwise fun x y => x.rule?.isSome → y.request ≠ .identifierCase
  /-- The rule that is kept is the first one that was told. -/
  kept : learned = xs.findSome? Exchange.rule?
  /-- Names are folded by the rule, without asking. -/
  fold : ∀ rule, e.inspector.options.case?.or learned = some rule → ∀ name,
    (e.inspector.fold name).transcript c learned s = ⟨(.ok (rule.apply name), learned), [], s⟩
  /-- Builders are made with the rule, without asking. -/
  builder : ∀ rule, e.inspector.options.case?.or learned = some rule →
    e.inspector.builder.transcript c learned s =
      ⟨(.ok { dialect := e.dialect, options := { e.inspector.options with case? := some rule } },
        learned), [], s⟩
  /-- And so everything is done as if the rule had been set in the options. -/
  known : ∀ rule, e.inspector.options.case?.or learned = some rule → ∀ u : Use,
    (u.perform e).transcript c learned s =
      (u.perform (e.withOptions { e.inspector.options with case? := some rule })).transcript c
        learned s
  /-- A look-up that fails is the last thing in its use, which fails with it; nothing is learned. -/
  failed : ∀ (u : Use) (ys : List Exchange) (x : Exchange) (zs : List Exchange) (error : DatabaseError),
    let t := (u.perform e).transcript c learned s
    t.exchanges = ys ++ x :: zs → x.request = .identifierCase → x.error? = some error →
      zs = [] ∧ t.result.2 = none ∧ ∃ error', t.result.1 = .error (.database error') ∧
        error'.isConnection = error.isConnection ∧ error'.isMetadata = !error.isConnection
  /-- As long as there is no rule, what needs one asks for it, unless there is no catalog to ask. All
      else is done as it would be with any rule. -/
  unresolved : e.inspector.options.case?.or learned = none → ∀ u : Use,
    let t := (u.perform e).transcript c learned s
    (∃ x ∈ t.exchanges, x.request = .identifierCase) ∨
      e.inspector.endpoint.hasCatalog = false ∧ t.result.1 = .error e.inspector.noCatalog ∨
      ∀ rule?, (u.perform e).transcript c rule? s = ⟨(t.result.1, rule?), t.exchanges, t.state⟩

/-- In every session the case rule is resolved at most once, whatever the database says and whenever it
    fails. -/
theorem Editor.session_resolves (e : Editor) (us : List Use) (c : Connection σ) (s : σ) :
    let t := (e.session us).transcript c none s
    e.ResolvesOnce c t.exchanges t.result.2 t.state := by
  intro t
  have hall := e.session_resolution ((e.session us).transcript_course c none s)
  have hcourse (u : Use) := (u.perform e).transcript_course c t.result.2 t.state
  refine
    { configured := fun hset => hall.known (by rwa [Option.or_none])
      once := hall.once
      kept := hall.learned
      fold := fun rule hrule name =>
        (Inspector.course_known hrule fun rule => rule.apply name).transcript_eq (.nil _)
      builder := fun rule hrule => (Inspector.course_known hrule fun rule =>
        (⟨e.dialect, { e.inspector.options with case? := some rule }⟩ : Builder)).transcript_eq (.nil _)
      known := fun rule hrule u => ((u.perform_follows e hrule).transcript c t.state).symm
      failed := ?failed
      unresolved := ?unresolved }
  case failed =>
    intro u ys x zs error v hxs hx herror
    obtain ⟨rfl, hfailed⟩ := u.perform_heeds e (hcourse u) hxs hx herror
    have hstep := (u.perform_resolves e).resolution (hcourse u)
    rw [show ((u.perform e).transcript c t.result.2 t.state).exchanges = ys ++ [x] from hxs] at hstep
    exact ⟨rfl, hstep.eq_none hx (Exchange.rule?_eq_none_of_error? herror), hfailed⟩
  case unresolved =>
    intro hnone u
    rw [(Option.or_eq_none_iff.1 hnone).2]
    exact u.perform_unresolved e c t.state

/-! ## A database that wavers -/

namespace Wavering

/-- A database without tables. It fails when it is first asked for its case rule, then tells one rule,
    and ever after another. -/
def database : Connection Nat where
  answer
    | 0, .identifierCase => (.error (.metadata "busy"), 1)
    | 1, .identifierCase => (.ok .upper, 2)
    | n, .identifierCase => (.ok .lower, n)
    | n, .listTables _ => (.ok [], n)
    | n, _ => (.error (.notSupported "no tables"), n)

/-- An editor that states no case rule, so that it has to learn the one of the database. -/
def editor : Editor where
  inspector := ⟨⟨"driver", "product", true⟩, .oracle, {}⟩
  config := { driver := "driver", url := "url" }

/-- Whether there is a table, asked three times. -/
def uses : List Use :=
  let asked : Use := .call (.question (.tableExists "t"))
  [asked, asked, asked]

end Wavering

/-- The first question fails, the second one gets the rule, and the third one goes by the same rule,
    though the database would tell another one. -/
theorem Editor.session_resolves_wavering :
    let t := (Wavering.editor.session Wavering.uses).transcript Wavering.database none 0
    t.exchanges.map Exchange.request =
        [.identifierCase, .identifierCase, .listTables (some "T"), .listTables (some "T")] ∧
      Wavering.editor.ResolvesOnce Wavering.database t.exchanges (some .upper) t.state :=
  ⟨rfl, session_resolves Wavering.editor Wavering.uses Wavering.database 0⟩

end SchemaChange
