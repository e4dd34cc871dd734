import SchemaChange.Proofs.Course.Basic

/-!
# Requests in turn

Statements that depend on each other are sent in turn, and the first one that comes to nothing is
the last one sent. `InTurn` says of exchanges that they are given requests made in this way.

* `InTurn.append`, `InTurn.append_of_stop`: requests in turn, and further ones after them, which are
  made only if none of the first ones stopped;
* `InTurn.of_append`: and the other way round;
* `InTurn.requests_prefix`, `InTurn.requests_eq`: what is asked are the first of the requests, and
  all of them if none stopped;
* `InTurn.exists_stop`: a stop is the last exchange and the only stop.
-/

namespace SchemaChange

/-- The exchanges are the given requests one after the other, up to and including the first one that
    stops. -/
def InTurn (stops : Exchange → Bool) : List Request → List Exchange → Prop
  | [], xs => xs = []
  | _ :: _, [] => False
  | r :: rs, x :: xs => x.request = r ∧ if stops x then xs = [] else InTurn stops rs xs

namespace InTurn

variable {stops : Exchange → Bool} {rs rs' : List Request} {xs ys zs : List Exchange} {x : Exchange}

theorem nil_iff : InTurn stops [] xs ↔ xs = [] := by
  cases xs <;> rfl

theorem cons_iff {r : Request} :
    InTurn stops (r :: rs) xs ↔
      ∃ x ys, xs = x :: ys ∧ x.request = r ∧ if stops x then ys = [] else InTurn stops rs ys := by
  cases xs with
  | nil => simp [InTurn]
  | cons x ys =>
    constructor
    · exact fun h => ⟨x, ys, rfl, h⟩
    · rintro ⟨_, _, ⟨⟩, h⟩
      exact h

/-- A single request is made, whatever comes of it. -/
theorem singleton_iff {r : Request} : InTurn stops [r] xs ↔ ∃ x, xs = [x] ∧ x.request = r := by
  simp only [cons_iff, nil_iff, ite_self]
  constructor
  · rintro ⟨x, _, rfl, hx, rfl⟩
    exact ⟨x, rfl, hx⟩
  · rintro ⟨x, rfl, hx⟩
    exact ⟨x, [], rfl, hx, rfl⟩

theorem append (h : InTurn stops rs xs) (hxs : ∀ x ∈ xs, stops x = false)
    (h' : InTurn stops rs' ys) : InTurn stops (rs ++ rs') (xs ++ ys) := by
  induction rs generalizing xs with
  | nil =>
    rw [nil_iff.1 h]
    exact h'
  | cons r rs ih =>
    obtain ⟨x, xs, rfl, hx, hrest⟩ := cons_iff.1 h
    have hgo : stops x = false := hxs x List.mem_cons_self
    rw [hgo] at hrest
    refine cons_iff.2 ⟨x, xs ++ ys, rfl, hx, ?_⟩
    rw [hgo]
    exact ih hrest fun y hy => hxs y (List.mem_cons_of_mem x hy)

theorem append_of_stop (h : InTurn stops rs xs) (hxs : ∃ x ∈ xs, stops x = true) :
    InTurn stops (rs ++ rs') xs := by
  induction rs generalizing xs with
  | nil =>
    obtain ⟨x, hx, _⟩ := hxs
    rw [nil_iff.1 h] at hx
    exact absurd hx List.not_mem_nil
  | cons r rs ih =>
    obtain ⟨x, xs, rfl, hx, hrest⟩ := cons_iff.1 h
    refine cons_iff.2 ⟨x, xs, rfl, hx, ?_⟩
    by_cases hstop : stops x
    · rw [if_pos hstop] at hrest ⊢
      exact hrest
    · rw [if_neg hstop] at hrest ⊢
      obtain ⟨y, hy, hys⟩ := hxs
      rcases List.mem_cons.1 hy with rfl | hy
      · exact absurd hys hstop
      · exact ih hrest ⟨y, hy, hys⟩

/-- Of requests with further ones after them, either one of the first stopped, or all of the first were
    made and then the further ones. -/
theorem of_append (h : InTurn stops (rs ++ rs') xs) :
    (InTurn stops rs xs ∧ ∃ x ∈ xs, stops x = true) ∨
      ∃ ys zs, xs = ys ++ zs ∧ InTurn stops rs ys ∧ (∀ y ∈ ys, stops y = false) ∧
        InTurn stops rs' zs := by
  induction rs generalizing xs with
  | nil => exact .inr ⟨[], xs, rfl, rfl, fun _ hy => absurd hy List.not_mem_nil, h⟩
  | cons r rs ih =>
    obtain ⟨x, xs, rfl, hx, hrest⟩ := cons_iff.1 h
    by_cases hstop : stops x = true
    · rw [if_pos hstop] at hrest
      subst hrest
      exact .inl ⟨cons_iff.2 ⟨x, [], rfl, hx, by rw [if_pos hstop]⟩, x, List.mem_cons_self, hstop⟩
    · rw [if_neg hstop] at hrest
      rcases ih hrest with ⟨hfirst, y, hy, hys⟩ | ⟨ys, zs, rfl, hys, hgo, hzs⟩
      · exact .inl ⟨cons_iff.2 ⟨x, xs, rfl, hx, by rwa [if_neg hstop]⟩, y,
          List.mem_cons_of_mem x hy, hys⟩
      · refine .inr ⟨x :: ys, zs, rfl, cons_iff.2 ⟨x, ys, rfl, hx, by rwa [if_neg hstop]⟩, ?_, hzs⟩
        intro y hy
        rcases List.mem_cons.1 hy with rfl | hy
        · exact eq_false_of_ne_true hstop
        · exact hgo y hy

/-- What is asked are the first of the requests. -/
theorem requests_prefix (h : InTurn stops rs xs) : xs.map Exchange.request <+: rs := by
  induction rs generalizing xs with
  | nil =>
    rw [nil_iff.1 h]
    exact List.nil_prefix
  | cons r rs ih =>
    obtain ⟨x, xs, rfl, rfl, hrest⟩ := cons_iff.1 h
    refine List.cons_prefix_cons.2 ⟨rfl, ?_⟩
    split at hrest
    · rw [hrest]
      exact List.nil_prefix
    · exact ih hrest

/-- If nothing stopped then all of them are asked. -/
theorem requests_eq (h : InTurn stops rs xs) (hxs : ∀ x ∈ xs, stops x = false) :
    xs.map Exchange.request = rs := by
  induction rs generalizing xs with
  | nil => rw [nil_iff.1 h, List.map_nil]
  | cons r rs ih =>
    obtain ⟨x, xs, rfl, rfl, hrest⟩ := cons_iff.1 h
    rw [hxs x List.mem_cons_self] at hrest
    rw [List.map_cons, ih hrest fun y hy => hxs y (List.mem_cons_of_mem x hy)]

theorem request_mem (h : InTurn stops rs xs) (hx : x ∈ xs) : x.request ∈ rs :=
  h.requests_prefix.subset (List.mem_map_of_mem hx)

/-- If there is a stop, it is the last exchange and the only one. -/
theorem exists_stop (h : InTurn stops rs xs) (hxs : ∃ x ∈ xs, stops x = true) :
    ∃ ys x, xs = ys ++ [x] ∧ stops x = true ∧ ∀ y ∈ ys, stops y = false := by
  induction rs generalizing xs with
  | nil =>
    obtain ⟨x, hx, _⟩ := hxs
    rw [nil_iff.1 h] at hx
    exact absurd hx List.not_mem_nil
  | cons r rs ih =>
    obtain ⟨x, xs, rfl, _, hrest⟩ := cons_iff.1 h
    by_cases hstop : stops x = true
    · rw [if_pos hstop] at hrest
      exact ⟨[], x, by rw [hrest]; rfl, hstop, fun _ hy => absurd hy List.not_mem_nil⟩
    · rw [if_neg hstop] at hrest
      obtain ⟨z, hz, hzs⟩ := hxs
      have hz : z ∈ xs := (List.mem_cons.1 hz).resolve_left fun e => hstop (e ▸ hzs)
      obtain ⟨ys, y, rfl, hy, hys⟩ := ih hrest ⟨z, hz, hzs⟩
      refine ⟨x :: ys, y, rfl, hy, fun w hw => ?_⟩
      rcases List.mem_cons.1 hw with rfl | hw
      · exact eq_false_of_ne_true hstop
      · exact hys w hw

end InTurn

end SchemaChange
