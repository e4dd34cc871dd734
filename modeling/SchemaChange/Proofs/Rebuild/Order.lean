import SchemaChange.Proofs.Course.Statement

/-!
# The order of a rebuild

A rebuild adds the temporary column, copies, drops the old column and renames, in turn; then it
restores the attributes. The first failure before the restorations is the end of it, while the
restorations go on after a rejection. `applyRebuild_order` says so of every course, and tells the
outcome from the exchanges.
-/

namespace SchemaChange

namespace Rebuild

/-- The requests up to the rename, given the rows that a decoding copy reads. -/
def requests (plan : Rebuild) (rows : List Row) : List Request :=
  .execute plan.addTemporary [] :: plan.copy.requests rows ++
    [.execute plan.dropOld [], .execute plan.rename []]

/-- The requests after the rename. -/
def restorationRequests (plan : Rebuild) : List Request :=
  plan.restorations.map fun sql => .execute sql []

/-- The order and the outcome of a rebuild that makes the exchanges `main` up to the rename and
    `rest` after it. -/
structure Order (plan : Rebuild) (ignoring : Bool) (main rest : List Exchange)
    (result : Except Failure Outcome) : Prop where
  /-- Addition, copy, drop and rename are sent in turn, and nothing follows a failure. -/
  main_inTurn : InTurn Exchange.failed (plan.requests (selectedRows main)) main
  rest_eq_nil : (∃ x ∈ main, x.failed = true) → rest = []
  /-- The restorations follow if all of these went through, and only a failure that is no rejection
      stops them. -/
  rest_inTurn : (∀ x ∈ main, x.failed = false) →
    InTurn Exchange.broke plan.restorationRequests rest
  applied_iff : result = .ok .applied ↔ ∀ x ∈ main ++ rest, x.failed = false
  appliedWithoutAttributes_iff : result = .ok .appliedWithoutAttributes ↔
    (∀ x ∈ main, x.failed = false) ∧ (∃ x ∈ rest, x.rejected = true) ∧
      ∀ x ∈ rest, x.broke = false
  failureIgnored_iff : result = .ok .failureIgnored ↔
    ignoring = true ∧ ∃ x ∈ main, x.rejected = true
  /-- Any other failure is the error of the rebuild, and it is the last exchange that failed. -/
  error_iff (f : Failure) : result = .error f ↔
    ∃ x e, (main ++ rest).getLast? = some x ∧ x.error? = some e ∧ f = .database e ∧
      (e.isExecution = true → rest = [] ∧ ignoring = false)

variable {plan : Rebuild} {ignoring : Bool} {main rest : List Exchange} {l l' : Option CaseRule}

theorem not_exists_failed (h : ∀ x ∈ main, x.failed = false) : ¬∃ x ∈ main, x.failed = true := by
  rintro ⟨x, hx, hf⟩
  rw [h x hx] at hf
  cases hf

theorem not_exists_rejected (h : ∀ x ∈ main, x.failed = false) : ¬∃ x ∈ main, x.rejected = true := by
  rintro ⟨x, hx, hr⟩
  rw [Exchange.rejected_of_not_failed (h x hx)] at hr
  cases hr

/-- A rebuild that stops before the restorations. -/
theorem order_of_stop (h : InTurn Exchange.failed (plan.requests (selectedRows main)) main)
    (hstop : ∃ x ∈ main, x.failed = true) :
    plan.Order ignoring main [] (verdict ignoring main) := by
  obtain ⟨ys, x, rfl, hx, hys⟩ := h.exists_stop hstop
  obtain ⟨e, he⟩ := Option.isSome_iff_exists.1 hx
  have hmem : x ∈ ys ++ [x] := List.mem_append_right ys List.mem_cons_self
  have hrej : (∃ y ∈ ys ++ [x], y.rejected = true) ↔ e.isExecution = true := by
    rw [← Exchange.rejected_of_error? he]
    refine ⟨fun ⟨y, hy, hyr⟩ => ?_, fun hxr => ⟨x, hmem, hxr⟩⟩
    rcases List.mem_append.1 hy with hy | hy
    · exact absurd ⟨y, hy, hyr⟩ (not_exists_rejected hys)
    · rwa [List.mem_singleton.1 hy] at hyr
  have hfailed : ¬∀ y ∈ ys ++ [x], y.failed = false := fun hall =>
    not_exists_failed hall ⟨x, hmem, hx⟩
  have hverdict : verdict ignoring (ys ++ [x]) =
      if ignoring && e.isExecution then .ok .failureIgnored else .error (.database e) := by
    rw [verdict_append_of_accepted hys]
    simp [verdict, he]
  rw [hverdict]
  refine ⟨h, fun _ => rfl, fun hall => absurd hall hfailed, ?_, ?_, ?_, fun f => ?_⟩
  · rw [List.append_nil]
    refine iff_of_false ?_ hfailed
    split <;> simp
  · refine iff_of_false ?_ fun hall => hfailed hall.1
    split <;> simp
  · rw [hrej, ← Bool.and_eq_true]
    split <;> simp_all
  · rw [List.append_nil]
    constructor
    · intro hr
      split at hr
      · cases hr
      · cases hr
        rename_i hnot
        exact ⟨x, e, List.getLast?_concat, he, rfl, fun hexec => ⟨rfl, by simpa [hexec] using hnot⟩⟩
    · rintro ⟨y, d, hy, hd, rfl, hexec⟩
      obtain rfl : x = y := Option.some.inj (List.getLast?_concat.symm.trans hy)
      obtain rfl : e = d := Option.some.inj (he.symm.trans hd)
      refine if_neg fun hboth => ?_
      obtain ⟨hi, he⟩ := Bool.and_eq_true_iff.1 hboth
      rw [(hexec he).2] at hi
      cases hi

/-! ## The restorations -/

/-- What restorations come to that make the exchanges `rest`, where it was `outcome` before them. -/
def restored (outcome : Outcome) (rest : List Exchange) : Except Failure Outcome :=
  match rest.findSome? fun x => x.error?.filter (!·.isExecution) with
  | some e => .error (.database e)
  | none => .ok (if rest.any Exchange.rejected then .appliedWithoutAttributes else outcome)

/-- One restoration has run, with the exchange `x`, before the others. -/
theorem restored_cons {outcome : Outcome} {x : Exchange} {xs : List Exchange} :
    restored outcome (x :: xs) =
      match x.error? with
      | none => restored outcome xs
      | some e =>
        if e.isExecution then restored .appliedWithoutAttributes xs else .error (.database e) := by
  unfold restored
  cases h : x.error? with
  | none => simp [h, Exchange.rejected]
  | some e =>
    by_cases hexec : e.isExecution
    · simp [h, hexec, Exchange.rejected]
    · simp [h, hexec, Option.filter]

theorem findSome?_of_not_broke (h : ∀ x ∈ rest, x.broke = false) :
    rest.findSome? (fun x => x.error?.filter (!·.isExecution)) = none := by
  rw [List.findSome?_eq_none_iff]
  intro x hx
  cases he : x.error? with
  | none => rfl
  | some e =>
    have hb := h x hx
    rw [Exchange.broke_of_error? he] at hb
    simpa [Option.filter] using hb

theorem restored_of_not_broke {outcome : Outcome} (h : ∀ x ∈ rest, x.broke = false) :
    restored outcome rest =
      .ok (if rest.any Exchange.rejected then .appliedWithoutAttributes else outcome) := by
  rw [restored, findSome?_of_not_broke h]

theorem restored_of_broke {outcome : Outcome} {ys : List Exchange} {x : Exchange}
    {e : DatabaseError} (hys : ∀ y ∈ ys, y.broke = false) (he : x.error? = some e)
    (hexec : e.isExecution = false) : restored outcome (ys ++ [x]) = .error (.database e) := by
  have hx : [x].findSome? (fun x => x.error?.filter (!·.isExecution)) = some e := by
    simp [he, hexec]
  rw [restored, List.findSome?_append, findSome?_of_not_broke hys, Option.none_or, hx]

/-- Restorations are sent in turn, up to a failure that is no rejection. -/
theorem restore_course {outcome : Outcome} {sqls : List String} {r : Except Failure Outcome}
    (hc : (Editor.restore outcome sqls).Course l rest r l') :
    InTurn Exchange.broke (sqls.map fun sql => .execute sql []) rest ∧
      r = restored outcome rest ∧ l' = l := by
  induction sqls generalizing outcome l rest with
  | nil =>
    obtain ⟨rfl, rfl, rfl⟩ := Operation.course_pure_iff.1 hc
    exact ⟨rfl, rfl, rfl⟩
  | cons sql sqls ih =>
    -- A rejection has become an outcome here, so only another failure ends the restorations.
    rcases Operation.course_bind_iff.1 hc with ⟨a, l₁, ys, zs, ho, hnext, rfl⟩ | ⟨f, ho, rfl⟩
    · obtain ⟨hx, ha, rfl⟩ := Editor.run_sends sql true ho
      obtain ⟨x, rfl, hreq⟩ := InTurn.singleton_iff.1 hx
      rw [List.singleton_append, restored_cons]
      cases he : x.error? with
      | none =>
        obtain rfl : a = .applied := by simpa [verdict, he] using ha
        obtain ⟨hzs, rfl, rfl⟩ := ih hnext
        refine ⟨⟨hreq, ?_⟩, rfl, rfl⟩
        rwa [Exchange.broke_of_not_failed (Exchange.failed_eq_false_iff.2 he)]
      | some e =>
        by_cases hexec : e.isExecution
        · obtain rfl : a = .failureIgnored := by simpa [verdict, he, hexec] using ha
          obtain ⟨hzs, rfl, rfl⟩ := ih hnext
          refine ⟨⟨hreq, ?_⟩, (if_pos hexec).symm, rfl⟩
          rwa [Exchange.broke_of_error? he, hexec]
        · simp [verdict, he, hexec] at ha
    · obtain ⟨hx, hf, rfl⟩ := Editor.run_sends sql true ho
      obtain ⟨x, rfl, hreq⟩ := InTurn.singleton_iff.1 hx
      rw [restored_cons]
      cases he : x.error? with
      | none => simp [verdict, he] at hf
      | some e =>
        by_cases hexec : e.isExecution
        · simp [verdict, he, hexec] at hf
        · obtain rfl : f = .database e := by simpa [verdict, he, hexec] using hf
          refine ⟨⟨hreq, ?_⟩, (if_neg hexec).symm, rfl⟩
          rw [Exchange.broke_of_error? he, eq_false_of_ne_true hexec]
          rfl

section Restored

variable (h : InTurn Exchange.failed (plan.requests (selectedRows main)) main)
  (hmain : ∀ x ∈ main, x.failed = false)
  (hrest : InTurn Exchange.broke plan.restorationRequests rest)

include h hmain hrest

/-- A rebuild whose restorations end in a failure that is no rejection. -/
theorem order_of_broken {ys : List Exchange} {x : Exchange} {e : DatabaseError}
    (hxs : rest = ys ++ [x]) (he : x.error? = some e) (hexec : e.isExecution = false) :
    plan.Order ignoring main rest (.error (.database e)) := by
  have hmem : x ∈ rest := hxs ▸ List.mem_append_right ys List.mem_cons_self
  have hlast : (main ++ rest).getLast? = some x := by
    rw [hxs, ← List.append_assoc]
    exact List.getLast?_concat
  have hbroke : x.broke = true := by
    rw [Exchange.broke_of_error? he, hexec]
    rfl
  refine ⟨h, fun hfailed => absurd hfailed (not_exists_failed hmain), fun _ => hrest, ?_, ?_, ?_,
    fun f => ?_⟩
  · refine iff_of_false nofun fun hall => ?_
    have hx := hall x (List.mem_append_right main hmem)
    rw [Exchange.failed_of_error? he] at hx
    cases hx
  · refine iff_of_false nofun fun hall => ?_
    have hx := hall.2.2 x hmem
    rw [hbroke] at hx
    cases hx
  · exact iff_of_false nofun fun hi => not_exists_rejected hmain hi.2
  · constructor
    · rintro ⟨⟩
      exact ⟨x, e, hlast, he, rfl, fun ht => absurd ht (ne_true_of_eq_false hexec)⟩
    · rintro ⟨y, d, hy, hd, rfl, _⟩
      obtain rfl : x = y := Option.some.inj (hlast.symm.trans hy)
      rw [Option.some.inj (he.symm.trans hd)]

/-- A rebuild whose restorations all went through or were rejected. -/
theorem order_of_unbroken (hunbroken : ∀ x ∈ rest, x.broke = false) :
    plan.Order ignoring main rest
      (.ok (if rest.any Exchange.rejected then .appliedWithoutAttributes else .applied)) := by
  have hrejected : ∀ x ∈ rest, x.failed = x.rejected := fun x hx => by
    rw [Exchange.failed_eq, hunbroken x hx, Bool.or_false]
  have hany : rest.any Exchange.rejected = true ↔ ∃ x ∈ rest, x.rejected = true := List.any_eq_true
  refine ⟨h, fun hfailed => absurd hfailed (not_exists_failed hmain), fun _ => hrest, ?_, ?_, ?_,
    fun f => ?_⟩
  · have hall : (∀ x ∈ main ++ rest, x.failed = false) ↔ ¬∃ x ∈ rest, x.rejected = true := by
      refine ⟨fun hok ⟨x, hx, hr⟩ => ?_, fun hno x hx => ?_⟩
      · rw [← hrejected x hx, hok x (List.mem_append_right main hx)] at hr
        cases hr
      · rcases List.mem_append.1 hx with hx | hx
        · exact hmain x hx
        · rw [hrejected x hx]
          exact eq_false_of_ne_true fun hr => hno ⟨x, hx, hr⟩
    rw [hall, ← hany]
    split <;> simp_all
  · rw [← hany]
    split <;> simp_all
  · refine iff_of_false ?_ fun hi => not_exists_rejected hmain hi.2
    split <;> simp
  · -- A failure in the end would be a rejected restoration, which is not raised.
    refine iff_of_false nofun ?_
    rintro ⟨x, e, hx, he, rfl, hexec⟩
    have hfailed := Exchange.failed_of_error? he
    rcases List.mem_append.1 (List.mem_of_getLast? hx) with hx | hx
    · exact not_exists_failed hmain ⟨x, hx, hfailed⟩
    · rw [hrejected x hx, Exchange.rejected_of_error? he] at hfailed
      rw [(hexec hfailed).1] at hx
      cases hx

/-- A rebuild that gets to the restorations. -/
theorem order_of_restored : plan.Order ignoring main rest (restored .applied rest) := by
  by_cases hbroke : ∃ x ∈ rest, x.broke = true
  · obtain ⟨ys, x, hxs, hx, hys⟩ := hrest.exists_stop hbroke
    obtain ⟨e, he⟩ : ∃ e, x.error? = some e := by
      rw [← Option.isSome_iff_exists]
      exact (Exchange.failed_eq x).trans (by rw [hx, Bool.or_true])
    have hexec : e.isExecution = false := by simpa [Exchange.broke_of_error? he] using hx
    have hrestored : restored .applied rest = .error (.database e) := by
      rw [hxs]
      exact restored_of_broke hys he hexec
    rw [hrestored]
    exact order_of_broken h hmain hrest hxs he hexec
  · have hunbroken : ∀ x ∈ rest, x.broke = false := fun x hx =>
      eq_false_of_ne_true fun hb => hbroke ⟨x, hx, hb⟩
    rw [restored_of_not_broke hunbroken]
    exact order_of_unbroken h hmain hrest hunbroken

end Restored

/-! ## The whole rebuild -/

/-- A rebuild in order, whatever is replied. -/
theorem applyRebuild_course {r : Except Failure Outcome} {xs : List Exchange}
    (hc : (Editor.applyRebuild plan ignoring).Course l xs r l') :
    ∃ main rest, xs = main ++ rest ∧ plan.Order ignoring main rest r ∧ l' = l := by
  -- Each stage either has the failure that ends the rebuild, or all of it went through and the next
  -- stage begins.
  rcases (Editor.run_sends plan.addTemporary ignoring).course_next hc with
    ⟨hadd, hstop, rfl, rfl⟩ | ⟨add, _, hadd, hadded, hcopying, rfl⟩
  · exact ⟨xs, [], (List.append_nil xs).symm,
      order_of_stop ((hadd.append_of_stop hstop).append_of_stop hstop) hstop, rfl⟩
  have hreads : ∀ x ∈ add, ∃ sql params, x.request = .execute sql params := fun x hx =>
    ⟨_, _, List.mem_singleton.1 (hadd.request_mem hx)⟩
  rcases (Editor.applyCopy_sends plan.copy ignoring).course_next hcopying with
    ⟨hcopy, hstop, rfl, rfl⟩ | ⟨copy, _, hcopy, hcopied, hswapping, rfl⟩
  · rename_i copy
    have hstop' : ∃ x ∈ add ++ copy, x.failed = true :=
      hstop.imp fun x hx => ⟨List.mem_append_right add hx.1, hx.2⟩
    rw [← selectedRows_append_left hreads] at hcopy
    rw [← verdict_append_of_accepted hadded]
    exact ⟨add ++ copy, [], (List.append_nil _).symm,
      order_of_stop ((hadd.append hadded hcopy).append_of_stop hstop') hstop', rfl⟩
  have hgo : ∀ x ∈ add ++ copy, x.failed = false := fun x hx =>
    (List.mem_append.1 hx).elim (hadded x) (hcopied x)
  have main_inTurn : ∀ {swap}, InTurn Exchange.failed
      [.execute plan.dropOld [], .execute plan.rename []] swap →
        InTurn Exchange.failed (plan.requests (selectedRows (add ++ copy ++ swap)))
          (add ++ copy ++ swap) := by
    intro swap hswap
    have hnone : ∀ x ∈ swap, ∃ sql params, x.request = .execute sql params := by
      intro x hx
      rcases List.mem_cons.1 (hswap.request_mem hx) with h | h
      · exact ⟨_, _, h⟩
      · exact ⟨_, _, List.mem_singleton.1 h⟩
    rw [selectedRows_append_right hnone, selectedRows_append_left hreads]
    exact (hadd.append hadded hcopy).append hgo hswap
  rcases (Editor.runAll_sends ignoring [plan.dropOld, plan.rename]).course_next hswapping with
    ⟨hswap, hstop, rfl, rfl⟩ | ⟨swap, rest, hswap, hswapped, hrestoring, rfl⟩
  · rename_i swap
    have hstop' : ∃ x ∈ add ++ copy ++ swap, x.failed = true :=
      hstop.imp fun x hx => ⟨List.mem_append_right _ hx.1, hx.2⟩
    refine ⟨add ++ copy ++ swap, [], by simp, ?_, rfl⟩
    rw [← verdict_append_of_accepted hgo]
    exact order_of_stop (main_inTurn hswap) hstop'
  · obtain ⟨hrest, rfl, rfl⟩ := restore_course hrestoring
    refine ⟨add ++ copy ++ swap, rest, by simp, ?_, rfl⟩
    exact order_of_restored (main_inTurn hswap)
      (fun x hx => (List.mem_append.1 hx).elim (hgo x) (hswapped x)) hrest

/-- What a rebuild sends, in which order, and what it comes to. -/
theorem applyRebuild_order {σ : Type} (plan : Rebuild) (ignoring : Bool) (c : Connection σ)
    (learned : Option CaseRule) (s : σ) :
    let t := (Editor.applyRebuild plan ignoring).transcript c learned s
    ∃ main rest, t.exchanges = main ++ rest ∧ plan.Order ignoring main rest t.result.1 := by
  obtain ⟨main, rest, hxs, horder, _⟩ := applyRebuild_course
    ((Editor.applyRebuild plan ignoring).transcript_course c learned s)
  exact ⟨main, rest, hxs, horder⟩

end Rebuild

end SchemaChange
