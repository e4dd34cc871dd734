import SchemaChange.Proofs.Course.Basic

/-!
# Operations in series

Operations one after the other on one connection, each from where the one before it left the database
and with what was learned by then (`Operation.series`). What a series has done so far is the list of its
transcripts, so an invariant of a series is a property of these, of what is learned and of the state.

* `Operation.series_invariant`: an invariant that every operation keeps holds before each of them.
-/

namespace SchemaChange.Operation

variable {α σ : Type}

/-- What comes of an operation on a connection. -/
abbrev Transcript (α σ : Type) :=
  Dialogue.Transcript (Except Failure α × Option CaseRule) σ

/-- The transcripts of operations one after the other, whatever each of them comes to. -/
def series (c : Connection σ) : List (Operation α) → Option CaseRule → σ → List (Transcript α σ)
  | [], _, _ => []
  | o :: os, learned, s =>
    let t := o.transcript c learned s
    t :: series c os t.result.2 t.state

variable {c : Connection σ} {os : List (Operation α)} {learned : Option CaseRule} {s : σ}
  {I : List (Transcript α σ) → Option CaseRule → σ → Prop}

/-- The invariant may know of what was done before the series. -/
private theorem series_invariant_after {before : List (Transcript α σ)} (hstart : I before learned s)
    (hstep : ∀ before learned s, I before learned s → ∀ o ∈ os,
      I (before ++ [o.transcript c learned s]) (o.transcript c learned s).result.2
        (o.transcript c learned s).state)
    {earlier later : List (Transcript α σ)} {t : Transcript α σ}
    (h : series c os learned s = earlier ++ t :: later) :
    ∃ o ∈ os, ∃ learned' s', I (before ++ earlier) learned' s' ∧ t = o.transcript c learned' s' := by
  induction os generalizing before learned s earlier with
  | nil => exact absurd h (List.append_ne_nil_of_right_ne_nil earlier (List.cons_ne_nil t later)).symm
  | cons o os ih =>
    -- The first operation is the one asked about, or has been done before it.
    cases earlier with
    | nil =>
      obtain ⟨ht, _⟩ := List.cons.inj h
      rw [List.append_nil]
      exact ⟨o, List.mem_cons_self, learned, s, hstart, ht.symm⟩
    | cons t₁ earlier =>
      obtain ⟨rfl, hrest⟩ := List.cons.inj h
      obtain ⟨o', ho', hfound⟩ := ih (hstep before learned s hstart o List.mem_cons_self)
        (fun before learned s hI o ho => hstep before learned s hI o (List.mem_cons_of_mem _ ho)) hrest
      rw [List.append_assoc] at hfound
      exact ⟨o', List.mem_cons_of_mem o ho', hfound⟩

/-- An invariant that every operation of a series keeps holds before each of them. -/
theorem series_invariant (hstart : I [] learned s)
    (hstep : ∀ before learned s, I before learned s → ∀ o ∈ os,
      I (before ++ [o.transcript c learned s]) (o.transcript c learned s).result.2
        (o.transcript c learned s).state)
    {earlier later : List (Transcript α σ)} {t : Transcript α σ}
    (h : series c os learned s = earlier ++ t :: later) :
    ∃ o ∈ os, ∃ learned' s', I earlier learned' s' ∧ t = o.transcript c learned' s' :=
  series_invariant_after hstart hstep h

end SchemaChange.Operation
