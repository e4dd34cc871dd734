import SchemaChange.Proofs.Course.Lookup

/-!
# How the case rule is resolved

The case rule of a database is asked for when it is first needed, and then kept. `Resolution` says what a
course shows of that, in a form in which two courses one after the other show it if each does.

* `Resolves`: every course of an operation shows it, and where the rule is not asked for it is not used;
* `Follows`: with a rule learned, one operation goes as another one does.
-/

namespace SchemaChange

variable {α β σ : Type} {i i' : Inspector} {configured? l l' l₁ : Option CaseRule}
  {xs ys : List Exchange} {o o' : Operation α}

/-- The case rule that an exchange tells: the answer, if the database was asked for it. -/
def Exchange.rule? : Exchange → Option CaseRule
  | ⟨.identifierCase, .ok rule⟩ => some rule
  | _ => none

/-- Only the question about the case of names brings a rule. -/
theorem Exchange.rule?_eq_none {x : Exchange} (h : x.request ≠ .identifierCase) : x.rule? = none := by
  unfold rule?
  split
  · exact absurd rfl h
  · rfl

theorem Exchange.rule?_eq_none_of_error? {x : Exchange} {error : DatabaseError}
    (h : x.error? = some error) : x.rule? = none := by
  unfold rule?
  split
  · cases h
  · rfl

/-- Where the question is not asked, no rule comes back. -/
theorem findSome?_rule?_eq_none (h : ∀ x ∈ xs, x.request ≠ .identifierCase) :
    xs.findSome? Exchange.rule? = none :=
  List.findSome?_eq_none_iff.2 fun x hx => Exchange.rule?_eq_none (h x hx)

/-! ## Requests alone -/

namespace Operation

variable {P : Request → Prop} {context : String} {q : Request}

theorem Plain.lookUp (hq : P q) : (lookUp context q).Plain P :=
  .attempt_bind hq fun
    | .ok _ => .pure _
    | .error _ => .fail _

theorem Plain.inCatalog (hq : P q) : (i.inCatalog context q).Plain P := by
  unfold Inspector.inCatalog Inspector.requireCatalog
  split
  · exact (Plain.pure _).bind fun _ => .lookUp hq
  · exact (Plain.fail _).bind fun _ => .lookUp hq

end Operation

/-! ## Resolution -/

/-- What exchanges show of how the case rule is resolved, if `l` was learned before them and `l'` after
    them. -/
structure Resolution (configured? l : Option CaseRule) (xs : List Exchange) (l' : Option CaseRule) :
    Prop where
  /-- What is learned is the first answer. -/
  learned : l' = l.or (xs.findSome? Exchange.rule?)
  /-- A rule that is known is not asked for. -/
  known : (configured?.or l).isSome → ∀ x ∈ xs, x.request ≠ .identifierCase
  /-- A rule that was told is not asked for again. -/
  once : xs.Pairwise fun x y => x.rule?.isSome → y.request ≠ .identifierCase

namespace Resolution

/-- Exchanges without the question leave what was learned as it was. -/
theorem of_unasked (h : ∀ x ∈ xs, x.request ≠ .identifierCase) : Resolution configured? l xs l where
  learned := by rw [findSome?_rule?_eq_none h, Option.or_none]
  known _ := h
  once := List.pairwise_of_forall_mem_list fun _ _ y hy _ => h y hy

/-- What is learned from exchanges one after the other is what the first of them to bring a
    rule brings. -/
theorem append (hxs : Resolution configured? l xs l₁) (hys : Resolution configured? l₁ ys l') :
    Resolution configured? l (xs ++ ys) l' where
  learned := by rw [hys.learned, hxs.learned, Option.or_assoc, List.findSome?_append]
  known hknown x hx := by
    rcases List.mem_append.1 hx with hx | hx
    · exact hxs.known hknown x hx
    · refine hys.known ?_ x hx
      rw [hxs.learned, ← Option.or_assoc, Option.isSome_or, hknown]
      rfl
  once := by
    refine List.pairwise_append.2 ⟨hxs.once, hys.once, fun x hx y hy htold => ?_⟩
    -- The rule that `x` tells has been learned, or one that was told before it.
    refine hys.known ?_ y hy
    have hfound : (xs.findSome? Exchange.rule?).isSome := List.findSome?_isSome_iff.2 ⟨x, hx, htold⟩
    rw [hxs.learned, Option.isSome_or, Option.isSome_or, hfound, Bool.or_true, Bool.or_true]

/-- If the last exchange failed to tell the rule, there is none. -/
theorem eq_none {x : Exchange} (h : Resolution configured? l (xs ++ [x]) l')
    (hx : x.request = .identifierCase) (hrule : x.rule? = none) : l' = none := by
  have hl : configured?.or l = none := by
    refine Option.not_isSome_iff_eq_none.1 fun hknown => ?_
    exact h.known hknown x (List.mem_append_right xs List.mem_cons_self) hx
  have hxs : ∀ y ∈ xs, y.rule? = none := fun y hy =>
    Option.not_isSome_iff_eq_none.1 fun htold =>
      (List.pairwise_append.1 h.once).2.2 y hy x List.mem_cons_self htold hx
  rw [h.learned, (Option.or_eq_none_iff.1 hl).2, List.findSome?_append,
    List.findSome?_eq_none_iff.2 hxs, List.findSome?_singleton, hrule]
  rfl

end Resolution

/-- The operation resolves the case rule as an inspector does. -/
structure Resolves (i : Inspector) (o : Operation α) : Prop where
  resolution : ∀ ⦃l xs r l'⦄, o.Course l xs r l' → Resolution i.options.case? l xs l'
  /-- If it does not ask for the rule, it does not need one, or it fails because there is no catalog to
      ask. -/
  unasked : ∀ ⦃xs r l'⦄, o.Course none xs r l' → (∀ x ∈ xs, x.request ≠ .identifierCase) →
    i.endpoint.hasCatalog = false ∧ r = .error i.noCatalog ∨ ∀ l, o.Course l xs r l

namespace Resolves

/-- An operation that neither asks for the rule nor recalls it leaves it as it is. -/
theorem plain (h : o.Plain (· ≠ .identifierCase)) : Resolves i o where
  resolution l xs r l' hc := by
    obtain ⟨rfl, _⟩ := h.course hc
    exact .of_unasked (h.asks hc)
  unasked _ _ _ hc _ := .inr (h.course hc).2

/-- Operations one after the other resolve the rule once, as what the first one learned is kept. -/
theorem bind {f : α → Operation β} (ho : Resolves i o) (hf : ∀ a, Resolves i (f a)) :
    Resolves i (o >>= f) where
  resolution l xs r l' hc := by
    rcases Operation.course_bind_iff.1 hc with ⟨a, l₁, ys, zs, ha, hnext, rfl⟩ | ⟨e, hfail, rfl⟩
    · exact (ho.resolution ha).append ((hf a).resolution hnext)
    · exact ho.resolution hfail
  unasked xs r l' hc hxs := by
    rcases Operation.course_bind_iff.1 hc with ⟨a, l₁, ys, zs, ha, hnext, rfl⟩ | ⟨e, hfail, rfl⟩
    · have hys : ∀ y ∈ ys, y.request ≠ .identifierCase :=
        fun y hy => hxs y (List.mem_append_left zs hy)
      have hzs : ∀ z ∈ zs, z.request ≠ .identifierCase :=
        fun z hz => hxs z (List.mem_append_right ys hz)
      -- What was not asked for was not learned: the second part begins without a rule as well.
      obtain rfl : l₁ = none := by
        rw [(ho.resolution ha).learned, findSome?_rule?_eq_none hys]
        rfl
      rcases ho.unasked ha hys with ⟨_, hr⟩ | hany
      · cases hr
      · refine ((hf a).unasked hnext hzs).imp_right fun hany' l => ?_
        exact Operation.course_bind_iff.2 (.inl ⟨a, l, ys, zs, hany l, hany' l, rfl⟩)
    · rcases ho.unasked hfail hxs with ⟨hcatalog, hr⟩ | hany
      · exact .inl ⟨hcatalog, by rw [Except.error.inj hr]⟩
      · exact .inr fun l => Operation.course_bind_iff.2 (.inr ⟨e, hany l, rfl⟩)

/-- The inspector takes the rule of its options, else the one that was learned, else it asks. -/
theorem caseRule : Resolves i i.caseRule where
  resolution l xs r l' hc := by
    -- It is asked for just where it is not known and there is a catalog.
    have hc := Inspector.course_caseRule_iff.1 hc
    split at hc
    · obtain ⟨rfl, _, rfl⟩ := hc
      exact .of_unasked (List.forall_mem_nil _)
    · rename_i hunknown
      obtain ⟨hlookUp, rfl⟩ := hc
      obtain ⟨_, rfl⟩ := Option.or_eq_none_iff.1 hunknown
      obtain ⟨_, hask⟩ := Inspector.course_inCatalog_iff.1 hlookUp
      split at hask
      · obtain ⟨reply, rfl, rfl⟩ := hask
        refine ⟨?_, fun hknown => ?_, List.pairwise_singleton _ _⟩
        · cases reply <;> rfl
        · rw [hunknown] at hknown
          cases hknown
      · obtain ⟨rfl, rfl⟩ := hask
        exact .of_unasked (List.forall_mem_nil _)
  unasked xs r l' hc hxs := by
    have hc := Inspector.course_caseRule_iff.1 hc
    split at hc
    · -- With nothing learned, a rule that is known is set in the options, and comes before any other.
      rename_i rule hset
      rw [Option.or_none] at hset
      obtain ⟨rfl, rfl, _⟩ := hc
      refine .inr fun l => (Inspector.course_caseRule_iff_of_known ?_).2 ⟨rfl, rfl, rfl⟩
      rw [hset]
      rfl
    · obtain ⟨_, hask⟩ := Inspector.course_inCatalog_iff.1 hc.1
      split at hask
      · obtain ⟨reply, rfl, _⟩ := hask
        exact absurd rfl (hxs _ List.mem_cons_self)
      · exact .inl ⟨eq_false_of_ne_true ‹_›, hask.2⟩

end Resolves

/-! ## Rules that are known -/

/-- With `l` learned, the second operation goes every way that the first one goes, and nothing is
    learned. -/
def Follows (l : Option CaseRule) (o o' : Operation α) : Prop :=
  ∀ ⦃xs r l'⦄, o.Course l xs r l' → l' = l ∧ o'.Course l xs r l

namespace Follows

theorem plain {P : Request → Prop} (h : o.Plain P) : Follows l o o := by
  intro xs r l' hc
  obtain ⟨hl', hany⟩ := h.course hc
  exact ⟨hl', hany l⟩

theorem bind {f f' : α → Operation β} (ho : Follows l o o') (hf : ∀ a, Follows l (f a) (f' a)) :
    Follows l (o >>= f) (o' >>= f') := by
  intro xs r l' hc
  rcases Operation.course_bind_iff.1 hc with ⟨a, l₁, ys, zs, ha, hnext, rfl⟩ | ⟨e, hfail, rfl⟩
  · obtain ⟨rfl, ha'⟩ := ho ha
    obtain ⟨rfl, hnext'⟩ := hf a hnext
    exact ⟨rfl, Operation.course_bind_iff.2 (.inl ⟨a, _, ys, zs, ha', hnext', rfl⟩)⟩
  · obtain ⟨rfl, hfail'⟩ := ho hfail
    exact ⟨rfl, Operation.course_bind_iff.2 (.inr ⟨e, hfail', rfl⟩)⟩

theorem caseRule {rule : CaseRule} (hi : i.options.case?.or l = some rule)
    (hi' : i'.options.case?.or l = some rule) : Follows l i.caseRule i'.caseRule := by
  intro xs r l' hc
  obtain ⟨rfl, rfl, rfl⟩ := (Inspector.course_caseRule_iff_of_known hi).1 hc
  exact ⟨rfl, (Inspector.course_caseRule_iff_of_known hi').2 ⟨rfl, rfl, rfl⟩⟩

/-- With every connection the two do the same. -/
theorem transcript (h : Follows l o o') (c : Connection σ) (s : σ) :
    o'.transcript c l s = o.transcript c l s := by
  obtain ⟨hl, hcourse⟩ := h (o.transcript_course c l s)
  have hanswers := o.transcript_answers c l s
  generalize o.transcript c l s = t at hl hcourse hanswers ⊢
  obtain ⟨⟨r, l'⟩, xs, s'⟩ := t
  obtain rfl : l' = l := hl
  exact hcourse.transcript_eq hanswers

end Follows

end SchemaChange
