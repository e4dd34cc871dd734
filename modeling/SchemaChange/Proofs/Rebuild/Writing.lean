import SchemaChange.Proofs.Rebuild.Order
import SchemaChange.Proofs.Rebuild.Survival

/-!
# Rows written back before a drop

A decoding copy reads the rows that have a source and writes each of them back. When the drop of the old
column is sent, every one of these writes has been sent and was accepted (`Edit.Decoding.copied`). That is
all that the drop waits for: neither what was bound nor how many rows were affected has a part in it.

* `Rebuild.Order.copied`: what has been exchanged by a rebuild that has come to the drop;
* `Edit.Decoding.forall₂_writes`: the rows that have a source and their writes, one for one.
-/

namespace SchemaChange

variable {σ : Type}

/-! ## Writes -/

/-- Whether the request is the statement with values bound. A rebuild binds values only to write rows
    back. -/
def Request.writes (update : String) : Request → Bool
  | .execute sql params => sql == update && !params.isEmpty
  | _ => false

/-- The exchanges in which rows are written back. -/
def writes (update : String) (xs : List Exchange) : List Exchange :=
  xs.filter fun x => x.request.writes update

section

variable {update : String} {keyless : Bool} {xs ys : List Exchange}

theorem writes_append : writes update (xs ++ ys) = writes update xs ++ writes update ys :=
  List.filter_append ..

theorem writes_eq_nil (h : ∀ x ∈ xs, x.request.writes update = false) : writes update xs = [] :=
  List.filter_eq_nil_iff.2 fun x hx => by simp [h x hx]

theorem writes_eq_self (h : ∀ x ∈ xs, x.request.writes update = true) : writes update xs = xs :=
  List.filter_eq_self.2 h

theorem Request.writes_of_isLookup {r : Request} (h : r.isLookup = true) :
    r.writes update = false := by
  cases r <;> first | rfl | cases h

/-- No row is written back by looking something up. -/
theorem writes_append_of_isLookup (h : ∀ x ∈ xs, x.request.isLookup = true) :
    writes update (xs ++ ys) = writes update ys := by
  rw [writes_append, writes_eq_nil fun x hx => Request.writes_of_isLookup (h x hx), List.nil_append]

/-- No row is read by looking something up. -/
theorem selectedRows_append_of_isLookup (h : ∀ x ∈ xs, x.request.isLookup = true) :
    selectedRows (xs ++ ys) = selectedRows ys := by
  have hnone : xs.findSome? Exchange.rows? = none := by
    rw [List.findSome?_eq_none_iff]
    intro ⟨r, reply⟩ hx
    have hlookup := h _ hx
    cases r <;> first | rfl | cases hlookup
  rw [selectedRows, List.findSome?_append, hnone, Option.none_or, selectedRows]

theorem Row.writes_of_writeBack? {row : Row} {r : Request}
    (h : row.writeBack? update keyless = some r) : r.writes update = true := by
  obtain ⟨v, _, rfl⟩ := Option.map_eq_some_iff.1 h
  simp [Request.writes]

end

/-! ## A rebuild that has come to the drop -/

namespace Builder

variable {b : Builder} {table suffix : String} {target : ColumnSpec} {current : SqlType}
  {keyColumns : List String} {plan : Rebuild}

/-- To add a column and to drop one are different statements. -/
theorem Parts.addTemporary_ne_dropOld (h : b.Parts table target current suffix keyColumns plan) :
    plan.addTemporary ≠ plan.dropOld := by
  obtain ⟨name, hname, hadd⟩ := bind_ok h.addTemporary
  obtain ⟨definition, _, hadd⟩ := bind_ok hadd
  obtain ⟨name', hname', hdrop⟩ := bind_ok h.dropOld
  obtain ⟨columnName, _, hdrop⟩ := bind_ok hdrop
  obtain rfl : name = name' := Except.ok.inj (hname.symm.trans hname')
  rw [← Except.ok.inj hadd, ← Except.ok.inj hdrop]
  intro heq
  -- The texts part after the table, where one goes on with ADD and the other with DROP.
  have hkeyword : ∃ rest, b.addKeyword.toList = 'A' :: rest := by
    unfold addKeyword
    cases b.dialect <;> exact ⟨_, rfl⟩
  obtain ⟨rest, hkeyword⟩ := hkeyword
  have hchars := congrArg String.toList heq
  simp only [String.toList_append, List.append_assoc, List.append_cancel_left_eq, hkeyword] at hchars
  cases hchars

end Builder

/-- What a rebuild with a decoding copy has exchanged that has come to the drop: it has added the
    temporary column, read the rows and written them back, all accepted, before it went on. -/
structure Rebuild.Copied (plan : Rebuild) (select update : String) (keyless : Bool)
    (xs : List Exchange) (add : Exchange) (result : QueryResult) (written rest : List Exchange) :
    Prop where
  exchanges : xs = add :: ⟨.query select [], .ok result⟩ :: (written ++ rest)
  add_request : add.request = .execute plan.addTemporary []
  add_accepted : add.failed = false
  requests : written.map Exchange.request = result.rows.filterMap (Row.writeBack? update keyless)
  accepted : ∀ x ∈ written, x.failed = false
  /-- Nothing is bound from then on. -/
  rest_unbound : ∀ x ∈ rest, ∃ sql, x.request = .execute sql []

/-- The restorations bind nothing. -/
theorem Rebuild.Order.rest_unbound {plan : Rebuild} {ignoring : Bool} {main rest : List Exchange}
    {r : Except Failure Outcome} (h : plan.Order ignoring main rest r) :
    ∀ x ∈ rest, ∃ sql, x.request = .execute sql [] := by
  intro x hx
  by_cases hstop : ∃ y ∈ main, y.failed = true
  · rw [h.rest_eq_nil hstop] at hx
    exact absurd hx List.not_mem_nil
  · have hrest := h.rest_inTurn fun y hy => eq_false_of_ne_true fun hf => hstop ⟨y, hy, hf⟩
    obtain ⟨sql, _, hsql⟩ := List.mem_map.1 (hrest.request_mem hx)
    exact ⟨sql, hsql.symm⟩

theorem Rebuild.Order.copied {plan : Rebuild} {ignoring : Bool} {main rest : List Exchange}
    {r : Except Failure Outcome} {select update : String} {keyColumns : List String}
    (h : plan.Order ignoring main rest r) (hcopy : plan.copy = .decode select update keyColumns)
    (hne : plan.addTemporary ≠ plan.dropOld)
    (hdrop : .execute plan.dropOld [] ∈ (main ++ rest).map Exchange.request) :
    ∃ add result written after,
      plan.Copied select update keyColumns.isEmpty (main ++ rest) add result written after := by
  have hmain := h.main_inTurn
  rw [Rebuild.requests, hcopy] at hmain
  rcases hmain.of_append with ⟨hcopying, hstop⟩ | ⟨ys, zs, rfl, hcopying, hgo, hswap⟩
  · -- It has stopped before, and none of the requests up to the copy is the drop.
    rw [h.rest_eq_nil hstop, List.append_nil] at hdrop
    have hmem := hcopying.requests_prefix.subset hdrop
    rcases List.mem_cons.1 hmem with hadd | hmem
    · exact absurd (Request.execute.inj hadd).1.symm hne
    · rcases List.mem_cons.1 hmem with hquery | hmem
      · cases hquery
      · obtain ⟨row, _, hrow⟩ := List.mem_filterMap.1 hmem
        have hwrites := Row.writes_of_writeBack? hrow
        simp [Request.writes] at hwrites
  · -- All requests up to the copy have gone through, so the exchanges are theirs, one for one.
    obtain ⟨add, copying, rfl, hadd, hreading⟩ := List.map_eq_cons_iff.1 (hcopying.requests_eq hgo)
    obtain ⟨⟨_, reply⟩, written, rfl, rfl, hwriting⟩ := List.map_eq_cons_iff.1 hreading
    have hread : (⟨.query select [], reply⟩ : Exchange).failed = false :=
      hgo _ (List.mem_cons_of_mem add List.mem_cons_self)
    cases reply with
    | error e => cases hread
    | ok result =>
      have hrows : selectedRows (add :: ⟨.query select [], .ok result⟩ :: written ++ zs) =
          result.rows := by
        rw [List.cons_append, ← List.singleton_append, selectedRows_append_left]
        · rfl
        · exact fun x hx => ⟨_, _, List.mem_singleton.1 hx ▸ hadd⟩
      rw [hrows] at hwriting
      refine ⟨add, result, written, zs ++ rest, ?_, hadd, hgo add List.mem_cons_self, hwriting, ?_, ?_⟩
      · simp
      · exact fun x hx => hgo x (List.mem_cons_of_mem _ (List.mem_cons_of_mem _ hx))
      · intro x hx
        rcases List.mem_append.1 hx with hx | hx
        · rcases List.mem_cons.1 (hswap.request_mem hx) with hx | hx
          · exact ⟨_, hx⟩
          · exact ⟨_, List.mem_singleton.1 hx⟩
        · exact h.rest_unbound x hx

namespace Rebuild.Copied

variable {plan : Rebuild} {select update : String} {keyless : Bool} {add : Exchange}
  {result : QueryResult} {xs written rest : List Exchange}
  (h : plan.Copied select update keyless xs add result written rest)

include h

/-- The rows that were read are those of the query. -/
theorem selectedRows_eq : selectedRows xs = result.rows := by
  rw [h.exchanges, ← List.singleton_append, selectedRows_append_left]
  · rfl
  · exact fun x hx => ⟨_, _, List.mem_singleton.1 hx ▸ h.add_request⟩

/-- The writes are those of the copy. -/
theorem writes_eq : writes update xs = written := by
  have hwritten : ∀ x ∈ written, x.request.writes update = true := by
    intro x hx
    have hmem : x.request ∈ written.map Exchange.request := List.mem_map_of_mem hx
    rw [h.requests] at hmem
    obtain ⟨row, _, hrow⟩ := List.mem_filterMap.1 hmem
    exact Row.writes_of_writeBack? hrow
  have hrest : ∀ x ∈ rest, x.request.writes update = false := by
    intro x hx
    obtain ⟨sql, hsql⟩ := h.rest_unbound x hx
    simp [hsql, Request.writes]
  have hadd : add.request.writes update = false := by simp [h.add_request, Request.writes]
  rw [h.exchanges, writes, List.filter_cons, if_neg (by simp [hadd]), List.filter_cons,
    if_neg (by simp [Request.writes]), ← writes, writes_append, writes_eq_self hwritten,
    writes_eq_nil hrest, List.append_nil]

end Rebuild.Copied

/-! ## Edits -/

/-- A rebuild with a decoding copy that an edit comes to on a connection: what is to be rebuilt, what
    is found out for it and the plan that is made of that. -/
structure Edit.Decoding (edit : Edit) (e : Editor) (c : Connection σ) (learned : Option CaseRule)
    (s : σ) where
  rebuilding : Rebuilding
  find : Operation Rebuilding.Facts
  facts : Rebuilding.Facts
  plan : Rebuild
  select : String
  update : String
  comes : edit.rebuilding? e = some (rebuilding, find)
  found : (find.transcript c learned s).result.1 = .ok facts
  planned : rebuilding.plan facts = .ok plan
  copies : plan.copy = .decode select update facts.keyColumns

namespace Edit.Decoding

variable {edit : Edit} {e : Editor} {c : Connection σ} {learned : Option CaseRule} {s : σ}
  (D : edit.Decoding e c learned s) (ignoring : Bool)

/-- Whether the source itself has to single out a row. -/
abbrev keyless : Bool :=
  D.facts.keyColumns.isEmpty

/-- The drop of the old column is among the exchanges, whatever came of it. -/
def Drops (xs : List Exchange) : Prop :=
  .execute D.plan.dropOld [] ∈ xs.map Exchange.request

/-- The edit finds out what it has to know, and then the rebuild is carried out. -/
theorem transcript_eq :
    let first := D.find.transcript c learned s
    let next := (Editor.applyRebuild D.plan ignoring).transcript c first.result.2 first.state
    ((edit.perform e ignoring).transcript c learned s).exchanges =
        first.exchanges ++ next.exchanges ∧
      ((edit.perform e ignoring).transcript c learned s).state = next.state := by
  intro first next
  have hcarry : (D.rebuilding.perform D.find ignoring).transcript c learned s =
      ⟨next.result, first.exchanges ++ next.exchanges, next.state⟩ := by
    rw [Rebuilding.perform, Operation.transcript_bind_of_ok D.found, D.planned]
    rfl
  have hobserve := Edit.perform_rebuilding D.comes ignoring fun o =>
    ((o.transcript c learned s).exchanges, (o.transcript c learned s).state)
  rw [hcarry] at hobserve
  exact Prod.mk.inj hobserve

theorem found_looksUp :
    ∀ x ∈ (D.find.transcript c learned s).exchanges, x.request.isLookup = true :=
  Edit.rebuilding?_looksUp D.comes (D.find.transcript_course c learned s)

/-- It is the rebuild that drops the column, reads the rows and writes them back. -/
theorem exchanges_eq :
    let first := D.find.transcript c learned s
    let next := (Editor.applyRebuild D.plan ignoring).transcript c first.result.2 first.state
    let t := (edit.perform e ignoring).transcript c learned s
    (D.Drops t.exchanges ↔ D.Drops next.exchanges) ∧
      selectedRows t.exchanges = selectedRows next.exchanges ∧
        writes D.update t.exchanges = writes D.update next.exchanges := by
  intro first next t
  rw [(D.transcript_eq ignoring).1]
  refine ⟨?_, selectedRows_append_of_isLookup D.found_looksUp,
    writes_append_of_isLookup D.found_looksUp⟩
  rw [Drops, List.map_append, List.mem_append]
  refine or_iff_right fun hmem => ?_
  obtain ⟨x, hx, hrequest⟩ := List.mem_map.1 hmem
  have hlookup := D.found_looksUp x hx
  rw [hrequest] at hlookup
  cases hlookup

variable {ignoring}

/-- An edit that has come to the drop has added the temporary column, read and written back. -/
theorem copied (hdrop : D.Drops ((edit.perform e ignoring).transcript c learned s).exchanges) :
    let first := D.find.transcript c learned s
    let next := (Editor.applyRebuild D.plan ignoring).transcript c first.result.2 first.state
    ∃ add result written rest,
      D.plan.Copied D.select D.update D.keyless next.exchanges add result written rest := by
  intro first next
  have hnext : D.Drops next.exchanges := (D.exchanges_eq ignoring).1.1 hdrop
  obtain ⟨main, rest, hxs, horder⟩ := Rebuild.applyRebuild_order D.plan ignoring c _ _
  rw [Drops, hxs] at hnext
  rw [hxs]
  exact horder.copied D.copies (Builder.rebuildColumn_parts D.planned).addTemporary_ne_dropOld hnext

/-- Every row that has a source has been written back, one for one, and every write was accepted. -/
theorem forall₂_writes
    (hdrop : D.Drops ((edit.perform e ignoring).transcript c learned s).exchanges) :
    let t := (edit.perform e ignoring).transcript c learned s
    List.Forall₂ (fun row x => x.failed = false ∧ row.writeBack? D.update D.keyless = some x.request)
      (sourced (selectedRows t.exchanges)) (writes D.update t.exchanges) := by
  intro t
  obtain ⟨add, result, written, rest, hcopied⟩ := D.copied hdrop
  obtain ⟨-, hrows, hwrites⟩ := D.exchanges_eq ignoring
  rw [hrows, hwrites, hcopied.selectedRows_eq, hcopied.writes_eq]
  exact ((List.forall₂_and_left _ _).2
    ⟨hcopied.accepted, (forall₂_of_writeBack? hcopied.requests).flip⟩).flip

end Edit.Decoding

end SchemaChange
