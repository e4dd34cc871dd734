import Mathlib.Data.List.TakeWhile
import SchemaChange.Proofs.Call.Staged
import SchemaChange.Proofs.Course.Lookup

/-!
# Failed look-ups

A look-up that fails is the last thing a call does, and its error is that of the call (`Heeds`). Where
there is no catalog, a call goes as it would with one up to the first request to the catalog, and
fails there instead (`CutsOff`).

* `Call.perform_failedLookup`: both of every call.
-/

namespace SchemaChange

variable {α β : Type} {i : Inspector} {copies : Bool} {xs ys zs : List Exchange}

/-! ## Look-ups that fail -/

/-- If a look-up fails then nothing follows, and the result is its error, relabelled unless the
    connection is lost. -/
def Heeds (copies : Bool) (xs : List Exchange) (r : Except Failure α) : Prop :=
  ∀ ⦃ys x zs e⦄, xs = ys ++ x :: zs → x.request.looksUp copies = true → x.error? = some e →
    zs = [] ∧ ∃ e', r = .error (.database e') ∧ e'.isConnection = e.isConnection ∧
      e'.isMetadata = !e.isConnection

namespace Heeds

/-- Where nothing is looked up, nothing is to be heeded. -/
theorem of_not_looksUp {r : Except Failure α}
    (h : ∀ x ∈ xs, x.request.looksUp copies = false) : Heeds copies xs r := by
  rintro ys x zs e rfl hx _
  rw [h x (List.mem_append_right ys List.mem_cons_self)] at hx
  cases hx

theorem nil {r : Except Failure α} : Heeds copies [] r :=
  of_not_looksUp fun _ hx => absurd hx List.not_mem_nil

/-- One look-up, with its own error as the result. -/
theorem lookUp {context : String} {q : Request} (reply : q.Reply) :
    Heeds copies [⟨q, reply⟩] (reply.mapError fun e => .database (e.inCatalog context)) := by
  intro ys x zs e hxs _ he
  obtain ⟨rfl, rfl, rfl⟩ : ys = [] ∧ x = ⟨q, reply⟩ ∧ zs = [] := by
    cases ys with
    | nil => simpa [eq_comm] using hxs
    | cons y ys => simp at hxs
  cases reply with
  | ok a => cases he
  | error d =>
    obtain rfl : d = e := Option.some.inj he
    exact ⟨rfl, _, rfl, d.inCatalog_isConnection context, d.inCatalog_isMetadata context⟩

/-- What was no look-up that failed may be followed by something else. -/
theorem append {a : α} {r : Except Failure β}
    (hys : Heeds copies ys (.ok a : Except Failure α)) (hzs : Heeds copies zs r) :
    Heeds copies (ys ++ zs) r := by
  intro us x vs e hxs hx he
  -- The failure is among `zs`, as `ys` ended well: it cannot have been the last of `ys` either.
  rcases List.append_eq_append_iff.1 hxs with ⟨ws, rfl, hws⟩ | ⟨ws, rfl, hws⟩
  · exact hzs hws hx he
  · cases ws with
    | nil =>
      have hzs' : zs = [] ++ x :: vs := hws.symm
      exact hzs hzs' hx he
    | cons w ws =>
      obtain ⟨rfl, rfl⟩ := List.cons.inj hws
      obtain ⟨_, e', he', _⟩ := hys rfl hx he
      cases he'

/-- An error is heeded whatever the operation was to come to. -/
theorem error {f : Failure} (h : Heeds copies xs (.error f : Except Failure α)) :
    Heeds copies xs (.error f : Except Failure β) := by
  intro ys x zs e hxs hx he
  obtain ⟨hzs, e', he', hlabel⟩ := h hxs hx he
  exact ⟨hzs, e', by rw [Except.error.inj he'], hlabel⟩

/-- Operations that heed failed look-ups do so one after the other. -/
theorem bind {o : Operation α} {f : α → Operation β}
    (ho : ∀ ⦃l xs r l'⦄, o.Course l xs r l' → Heeds copies xs r)
    (hf : ∀ a ⦃l xs r l'⦄, (f a).Course l xs r l' → Heeds copies xs r) :
    ∀ ⦃l xs r l'⦄, (o >>= f).Course l xs r l' → Heeds copies xs r := by
  intro l xs r l' hc
  rcases Operation.course_bind_iff.1 hc with ⟨a, l₁, ys, zs, ha, hnext, rfl⟩ | ⟨e, hfail, rfl⟩
  · exact (ho ha).append (hf a hnext)
  · exact (ho hfail).error

end Heeds

/-- A failed request to the catalog ends what was to follow it. -/
theorem Inspector.inCatalog_heeds {context : String} {q : Request} {l l' : Option CaseRule}
    {r : Except Failure q.Answer} (hc : (i.inCatalog context q).Course l xs r l') :
    Heeds copies xs r := by
  obtain ⟨_, hc⟩ := course_inCatalog_iff.1 hc
  split at hc
  · obtain ⟨reply, rfl, rfl⟩ := hc
    exact .lookUp reply
  · rw [hc.1]
    exact .nil

/-- In an inquiry every failed look-up is the last one, and the answer is its error. -/
theorem Inquiry.heeds {o : Inspector.Setting → Operation α} (h : Inquiry i o)
    (w : Inspector.Setting) : ∀ ⦃l xs r l'⦄, (o w).Course l xs r l' → Heeds copies xs r := by
  induction h with
  | pure a =>
    intro l xs r l' hc
    rw [(Operation.course_pure_iff.1 hc).1]
    exact .nil
  | fail f hf =>
    intro l xs r l' hc
    rw [(Operation.course_throw_iff.1 hc).1]
    exact .nil
  | bind _ _ ho hf => exact .bind ho hf
  | lookUp context q _ _ =>
    intro l xs r l' hc
    obtain ⟨reply, rfl, _, rfl⟩ := Operation.course_lookUp_iff.1 hc
    exact .lookUp reply
  | inCatalog context q _ => exact fun _ _ _ _ hc => Inspector.inCatalog_heeds hc
  | caseRule =>
    intro l xs r l' hc
    have hc := Inspector.course_caseRule_iff.1 hc
    split at hc
    · rw [hc.1]
      exact .nil
    · exact Inspector.inCatalog_heeds hc.1

/-- In an edit too, as statements are sent only after the look-ups. -/
theorem Staged.heeds {fallback : α} {o : Inspector.Setting → Bool → Operation α}
    (h : Staged i copies fallback o) (w : Inspector.Setting) (ignoring : Bool) :
    ∀ ⦃l xs r l'⦄, (o w ignoring).Course l xs r l' → Heeds copies xs r := by
  induction h with
  | send h => exact fun _ _ _ _ hc => .of_not_looksUp ((h.plain ignoring).asks hc)
  | inquire ho _ ih => exact .bind (ho.heeds w) ih

/-! ## Look-ups without a catalog -/

/-- The second operation goes as the first one does, but fails where that one would make its first
    request to the catalog. -/
def CutsOff (i : Inspector) (full bare : Operation α) : Prop :=
  ∀ ⦃l xs r l'⦄, full.Course l xs r l' →
    ((∀ x ∈ xs, x.request.introspects = false) ∧ bare.Course l xs r l') ∨
      ∃ ys x zs l₁, xs = ys ++ x :: zs ∧ (∀ y ∈ ys, y.request.introspects = false) ∧
        x.request.introspects = true ∧ bare.Course l ys (.error i.noCatalog) l₁

namespace CutsOff

/-- An operation that asks no catalog goes on without one as it is. -/
theorem refl {o : Operation α} (h : o.Asks fun r => r.introspects = false) : CutsOff i o o :=
  fun _ _ _ _ hc => .inl ⟨h hc, hc⟩

theorem bind {o o' : Operation α} {f f' : α → Operation β} (ho : CutsOff i o o')
    (hf : ∀ a, CutsOff i (f a) (f' a)) : CutsOff i (o >>= f) (o' >>= f') := by
  intro l xs r l' hc
  rcases Operation.course_bind_iff.1 hc with ⟨a, l₁, ys, zs, ha, hnext, rfl⟩ | ⟨e, hfail, rfl⟩
  · -- Either part may be the one that is cut off; if the first one is, the second never begins.
    rcases ho ha with ⟨hys, ha'⟩ | ⟨us, x, vs, l₂, rfl, hus, hx, ha'⟩
    · rcases hf a hnext with ⟨hzs, hnext'⟩ | ⟨us, x, vs, l₂, rfl, hus, hx, hnext'⟩
      · exact .inl ⟨fun x hx => (List.mem_append.1 hx).elim (hys x) (hzs x),
          Operation.course_bind_iff.2 (.inl ⟨a, l₁, ys, zs, ha', hnext', rfl⟩)⟩
      · exact .inr ⟨ys ++ us, x, vs, l₂, (List.append_assoc ys us (x :: vs)).symm,
          fun y hy => (List.mem_append.1 hy).elim (hys y) (hus y), hx,
          Operation.course_bind_iff.2 (.inl ⟨a, l₁, ys, us, ha', hnext', rfl⟩)⟩
    · exact .inr ⟨us, x, vs ++ zs, l₂, by simp, hus, hx,
        Operation.course_bind_iff.2 (.inr ⟨_, ha', rfl⟩)⟩
  · rcases ho hfail with ⟨hxs, hfail'⟩ | ⟨us, x, vs, l₂, rfl, hus, hx, hfail'⟩
    · exact .inl ⟨hxs, Operation.course_bind_iff.2 (.inr ⟨e, hfail', rfl⟩)⟩
    · exact .inr ⟨us, x, vs, l₂, rfl, hus, hx, Operation.course_bind_iff.2 (.inr ⟨_, hfail', rfl⟩)⟩

/-- The run of the second operation is that of the first one up to there. -/
theorem transcript {full bare : Operation α} (h : CutsOff i full bare) {σ : Type}
    (c : Connection σ) (l : Option CaseRule) (s : σ) :
    (bare.transcript c l s).exchanges =
        (full.transcript c l s).exchanges.takeWhile (!·.request.introspects) ∧
      (bare.transcript c l s).result.1 =
        if (full.transcript c l s).exchanges.any (·.request.introspects) then .error i.noCatalog
        else (full.transcript c l s).result.1 := by
  have hcourse := full.transcript_course c l s
  have hanswers := full.transcript_answers c l s
  generalize full.transcript c l s = t at hcourse hanswers ⊢
  obtain ⟨⟨r, l'⟩, xs, s'⟩ := t
  rcases h hcourse with ⟨hxs, hbare⟩ | ⟨ys, x, zs, l₁, rfl, hys, hx, hbare⟩
  · have hall : xs.takeWhile (!·.request.introspects) = xs :=
      List.takeWhile_eq_self_iff.2 fun x hx => by rw [hxs x hx]; rfl
    have hany : xs.any (·.request.introspects) = false :=
      List.any_eq_false.2 fun x hx => ne_true_of_eq_false (hxs x hx)
    rw [hbare.transcript_eq hanswers, hall, hany]
    exact ⟨rfl, rfl⟩
  · have hcut : (ys ++ x :: zs).takeWhile (!·.request.introspects) = ys := by
      rw [List.takeWhile_append_of_pos fun y hy => by rw [hys y hy]; rfl,
        List.takeWhile_cons_of_neg (by rw [hx]; exact Bool.false_ne_true), List.append_nil]
    have hany : (ys ++ x :: zs).any (·.request.introspects) = true :=
      List.any_eq_true.2 ⟨x, List.mem_append_right ys List.mem_cons_self, hx⟩
    obtain ⟨s₁, hys', _⟩ := Connection.answers_append_iff.1 hanswers
    rw [hbare.transcript_eq hys', hcut, hany]
    exact ⟨rfl, rfl⟩

end CutsOff

/-- A request to a catalog that is not there fails at once. -/
theorem Inspector.inCatalog_cutsOff (context : String) {q : Request} (hq : q.introspects = true) :
    CutsOff i ((i.withCatalog true).inCatalog context q)
      ((i.withCatalog false).inCatalog context q) := by
  intro l xs r l' hc
  obtain ⟨_, reply, rfl, _⟩ := course_inCatalog_iff.1 hc
  exact .inr ⟨[], ⟨q, reply⟩, [], l, rfl, fun _ hy => absurd hy List.not_mem_nil, hq,
    course_inCatalog_iff.2 ⟨rfl, rfl, rfl⟩⟩

theorem Inspector.caseRule_cutsOff :
    CutsOff i (i.withCatalog true).caseRule (i.withCatalog false).caseRule := by
  intro l xs r l' hc
  cases h : i.options.case?.or l with
  | some rule =>
    have hset (has : Bool) : (i.withCatalog has).options.case?.or l = some rule := h
    obtain ⟨rfl, rfl, rfl⟩ := (course_caseRule_iff_of_known (hset true)).1 hc
    exact .inl ⟨List.forall_mem_nil _,
      (course_caseRule_iff_of_known (hset false)).2 ⟨rfl, rfl, rfl⟩⟩
  | none =>
    have hc := course_caseRule_iff.1 hc
    have hbare : ∀ {xs r l'}, (i.withCatalog false).caseRule.Course l xs r l' ↔ _ :=
      course_caseRule_iff
    simp only [withCatalog, h] at hc hbare
    rcases inCatalog_cutsOff _ rfl hc.1 with ⟨hxs, _⟩ | ⟨ys, x, zs, l₁, rfl, hys, hx, hfail⟩
    · obtain ⟨_, reply, rfl, _⟩ := course_inCatalog_iff.1 hc.1
      cases hxs _ List.mem_cons_self
    · obtain ⟨rfl, _⟩ := course_inCatalog_iff.1 hfail
      exact .inr ⟨ys, x, zs, _, rfl, hys, hx, hbare.2 ⟨hfail, rfl⟩⟩

/-- Without a catalog an inquiry goes as far as it needs none. -/
theorem Inquiry.cutsOff {o : Inspector.Setting → Operation α} (h : Inquiry i o) :
    CutsOff i (o ⟨true, i.options.case?⟩) (o ⟨false, i.options.case?⟩) := by
  induction h with
  | pure a => exact .refl (.pure a)
  | fail f hf => exact .refl (.fail f)
  | bind _ _ ho hf => exact ho.bind hf
  | lookUp context q hq _ => exact .refl (Operation.lookUp_asks hq)
  | inCatalog context q hq =>
    exact Inspector.inCatalog_cutsOff context (Request.introspects_of_readsSchema hq)
  | caseRule => exact Inspector.caseRule_cutsOff

theorem Staged.cutsOff {fallback : α} {o : Inspector.Setting → Bool → Operation α}
    (h : Staged i copies fallback o) (ignoring : Bool) :
    CutsOff i (o ⟨true, i.options.case?⟩ ignoring) (o ⟨false, i.options.case?⟩ ignoring) := by
  induction h with
  | send h =>
    refine .refl fun l xs r l' hc x hx => eq_false_of_ne_true fun hi => ?_
    have hnot : x.request.looksUp copies = false := (h.plain ignoring).asks hc x hx
    rw [Request.looksUp_of_introspects hi] at hnot
    cases hnot
  | inquire ho _ ih => exact ho.cutsOff.bind ih

/-! ## Calls -/

namespace Call

/-- Every call heeds failed look-ups. -/
theorem perform_heeds (e : Editor) (call : Call) :
    ∀ ⦃l xs r l'⦄, (call.perform e).Course l xs r l' → Heeds call.copiesRows xs r := by
  cases call with
  | edit change ignoring =>
    exact (change.perform_staged e).heeds e.inspector.setting ignoring
  | question q => exact (q.answer_inquiry e.inspector).heeds e.inspector.setting

/-- Every call goes without a catalog as far as it needs none. -/
theorem perform_cutsOff (e : Editor) (call : Call) :
    CutsOff e.inspector (call.perform (e.withCatalog true)) (call.perform (e.withCatalog false)) := by
  cases call with
  | edit change ignoring => exact (change.perform_staged e).cutsOff ignoring
  | question q => exact (q.answer_inquiry e.inspector).cutsOff

/-- A failed look-up ends a call with its error, and where there is no catalog the first request to
    it is not made and ends the call. -/
theorem perform_failedLookup {σ : Type} (e : Editor) (call : Call) (c : Connection σ)
    (learned : Option CaseRule) (s : σ) :
    (∀ ys x zs error,
      ((call.perform e).transcript c learned s).exchanges = ys ++ x :: zs →
        x.request.looksUp call.copiesRows = true → x.error? = some error →
          zs = [] ∧ ∃ error',
            ((call.perform e).transcript c learned s).result.1 = .error (.database error') ∧
              error'.isConnection = error.isConnection ∧ error'.isMetadata = !error.isConnection) ∧
      let full := (call.perform (e.withCatalog true)).transcript c learned s
      let bare := (call.perform (e.withCatalog false)).transcript c learned s
      bare.exchanges = full.exchanges.takeWhile (!·.request.introspects) ∧
        bare.result.1 = if full.exchanges.any (·.request.introspects) then
            .error (.database (.metadata
              ("driver '" ++ e.inspector.endpoint.driverName ++ "' does not expose a schema catalog")))
          else full.result.1 := by
  refine ⟨fun ys x zs error hxs hx herror => ?_, (call.perform_cutsOff e).transcript c learned s⟩
  exact call.perform_heeds e ((call.perform e).transcript_course c learned s) hxs hx herror

end Call

end SchemaChange
