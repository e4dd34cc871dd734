import SchemaChange.Proofs.Rebuild.Writing

/-!
# How many rows were written

Nothing is dropped unless every write of a decoding copy was accepted, but the number of rows that a
write has affected is not looked at. NULL equals nothing, so the write of a row with NULL in its key is
accepted and affects no row, and what the row held goes with the column.

* `Counts.affects_iff`: on a database that counts, which writes of a copy affect a row;
* `Edit.perform_counted`: what has been written when the column is dropped.
-/

namespace SchemaChange

variable {σ : Type}

/-! ## Databases that count -/

/-- The number of rows in which the statement sets a column. -/
def Change.affected (col : String → String) (params : List Value) (d : Content) : Change → Nat
  | assign _ _ => d.rows.length
  | write _ conditions =>
    (d.rows.filter fun row => key col conditions row = params.tail ∧ .null ∉ params.tail).length
  | _ => 0

/-- The database reports how many rows the copy of a rebuild affects. -/
def Counts (c : Connection σ) (content : σ → Content) (col : String → String) (w : Rebuilding)
    (f : Rebuilding.Facts) : Prop :=
  ∀ sql, (w.transfer f).text f.builder w.table = .ok sql →
    ∀ s params n s', c.answer s (.execute sql params) = (.ok n, s') →
      n = (w.transfer f).affected col params (content s)

variable {c : Connection σ} {content : σ → Content} {col : String → String} {w : Rebuilding}
  {f : Rebuilding.Facts}

/-- A row is written just if the key is its own and holds no NULL. -/
theorem Change.affected_write_pos_iff {target : String} {conditions : List String} {value : Value}
    {bound : List Value} {d : Content} :
    0 < (write target conditions).affected col (value :: bound) d ↔
      .null ∉ bound ∧ ∃ row ∈ d.rows, key col conditions row = bound := by
  simp only [affected, List.length_pos_iff_exists_mem, List.mem_filter, decide_eq_true_eq]
  rw [List.tail_cons]
  constructor
  · rintro ⟨row, hrow, hkey, hnull⟩
    exact ⟨hnull, row, hrow, hkey⟩
  · rintro ⟨hnull, row, hrow, hkey⟩
    exact ⟨row, hrow, hkey, hnull⟩

/-- Writing rows back leaves all but the temporary column as it was. -/
theorem Filled.of_transfer {d₀ d d' : Content} {params : List Value} (hdecodes : w.decodes f = true)
    (h : Filled (col w.temporary) (fun _ _ => True) d₀ d)
    (ht : (w.transfer f).effect? col params d = some d') :
    Filled (col w.temporary) (fun _ _ => True) d₀ d' := by
  rw [Rebuilding.transfer, if_pos hdecodes] at ht
  cases params with
  | nil => cases ht
  | cons value bound =>
    obtain ⟨_, ⟨⟩⟩ := Option.ite_none_right_eq_some.1 ht
    refine h.mapRows (fun row c hc => ?_) fun _ _ _ _ _ => trivial
    split
    · exact Function.update_of_ne hc _ _
    · rfl

/-- Every row is still there. -/
theorem Filled.exists_row {temporary : String} {R : Cells → Value → Prop} {d₀ d : Content}
    {row : Cells} (h : Filled temporary R d₀ d) (hrow : row ∈ d₀.rows) :
    ∃ row' ∈ d.rows, ∀ c, c ≠ temporary → row' c = row c := by
  obtain ⟨i, hi, rfl⟩ := List.getElem_of_mem hrow
  have hi' : i < d.rows.length := h.rows.length_eq ▸ hi
  exact ⟨d.rows[i], List.getElem_mem hi', (h.rows.get hi hi').2.1⟩

/-- Selected rows are written back, all accepted: just the writes with a NULL in the key affect no
    row. -/
theorem Counts.affects_iff (hcounts : Counts c content col w f) (hserves : Serves c content col w f)
    (hdecodes : w.decodes f = true) {update : String}
    (hupdate : (w.transfer f).text f.builder w.table = .ok update) {d₀ : Content}
    (hconditions : ∀ name ∈ w.conditions f, col name ∈ d₀.columns) {xs : List Exchange} {s s' : σ}
    (hfilled : Filled (col w.temporary) (fun _ _ => True) d₀ (content s))
    (ha : c.Answers s xs s') (haccepted : ∀ x ∈ xs, x.failed = false)
    (hselected : ∀ x ∈ xs, ∃ value, ∃ row ∈ d₀.rows,
      x.request = .execute update (value :: Change.key col (w.conditions f) row)) :
    ∀ x ∈ xs, ∀ value key n, x = ⟨.execute update (value :: key), .ok n⟩ → (0 < n ↔ .null ∉ key) := by
  -- By induction on the writes; all the while only the temporary column differs from what was there.
  induction xs generalizing s with
  | nil => exact fun _ hx => absurd hx List.not_mem_nil
  | cons y ys ih =>
    obtain ⟨s₁, hanswer, hs⟩ := Connection.answers_cons_iff.1 ha
    obtain ⟨text, row, hrow, hrequest⟩ := hselected y List.mem_cons_self
    obtain ⟨_, reply⟩ := y
    subst hrequest
    cases reply with
    | error e => cases haccepted _ List.mem_cons_self
    | ok m =>
      have heffect := hserves.accepted _ (w.transfer_mem f) _ hupdate _ _ _ _ hanswer
      have hrest := ih (hfilled.of_transfer hdecodes heffect) hs
        (fun x hx => haccepted x (List.mem_cons_of_mem _ hx))
        fun x hx => hselected x (List.mem_cons_of_mem _ hx)
      intro x hx value key n hxn
      rcases List.mem_cons.1 hx with rfl | hx
      · cases hxn
        obtain ⟨row', hrow', hsame⟩ := hfilled.exists_row hrow
        have hkey : Change.key col (w.conditions f) row' = Change.key col (w.conditions f) row :=
          key_congr fun name hname => hsame _ (hfilled.ne_temporary (hconditions name hname))
        rw [hcounts _ hupdate _ _ _ _ hanswer, Rebuilding.transfer, if_pos hdecodes,
          Change.affected_write_pos_iff]
        exact and_iff_left ⟨row', hrow', hkey⟩
      · exact hrest x hx value key n hxn

/-- When the rows are written back, nothing but the temporary column has been added, and the rows are
    those of the table. -/
theorem Rebuild.Copied.filled {plan : Rebuild} {select update : String} {add : Exchange}
    {result : QueryResult} {xs written rest : List Exchange} {s s' : σ}
    (h : plan.Copied select update f.keyColumns.isEmpty xs add result written rest)
    (htexts : w.Texts f plan)
    (hselect : selectionText f.builder w.table w.target.name f.keyColumns = .ok select)
    (hreads : ReadsOnly c content) (hserves : Serves c content col w f) (ha : c.Answers s xs s')
    (hcolumns : ∀ name ∈ w.target.name :: f.keyColumns, col name ∈ (content s).columns) :
    ∃ s₁ s₂, c.Answers s₁ written s₂ ∧
      Filled (col w.temporary) (fun _ _ => True) (content s) (content s₁) ∧
        ∀ x ∈ written, ∃ value, ∃ row ∈ (content s).rows,
          x.request = .execute update (value :: Change.key col (w.conditions f) row) := by
  rw [h.exchanges] at ha
  obtain ⟨s₀, hadd, ha⟩ := Connection.answers_cons_iff.1 ha
  obtain ⟨s₁, hread, ha⟩ := Connection.answers_cons_iff.1 ha
  obtain ⟨s₂, hwritten, -⟩ := Connection.answers_append_iff.1 ha
  have hfilled : Filled (col w.temporary) (fun _ v => v = .null) (content s) (content s₀) := by
    obtain ⟨_, reply⟩ := add
    obtain rfl := h.add_request
    cases reply with
    | error e => cases h.add_accepted
    | ok n =>
      exact filled_of_addition
        (hserves.accepted _ (w.addition_mem f) _ htexts.addTemporary _ _ _ _ hadd)
  have hsame : content s₁ = content s₀ := by
    have := hreads s₀ (.query select []) rfl
    rwa [hread] at this
  refine ⟨s₁, s₂, hwritten, ?_, fun x hx => ?_⟩
  · rw [hsame]
    exact hfilled.mono fun _ _ _ _ => trivial
  · -- The row was selected after the addition, which has changed nothing that is selected.
    have hselected := hserves.selected _ hselect _ _ _ hread
    rw [hfilled.selection_eq (hcolumns _ List.mem_cons_self)
      fun name hname => hcolumns name (List.mem_cons_of_mem _ hname)] at hselected
    have hmem : x.request ∈ written.map Exchange.request := List.mem_map_of_mem hx
    rw [h.requests] at hmem
    obtain ⟨row, hrow, hwrite⟩ := List.mem_filterMap.1 hmem
    obtain ⟨row₀, hrow₀, hsource, hvalues⟩ :=
      mem_selection_iff.1 (hselected.mem_iff.1 (List.mem_map_of_mem hrow))
    rw [← Editor.writeBack?_eq, writeBack?_selected hsource hvalues] at hwrite
    exact ⟨_, row₀, hrow₀, (Option.some.inj hwrite).symm⟩

namespace Edit

variable {edit : Edit} {e : Editor} {ignoring : Bool} {learned : Option CaseRule} {s : σ}

/-- Where the database counts and has the columns, an edit that has come to the drop has written back
    nothing of the rows with a NULL in the key, and something of any other row. -/
theorem Decoding.affects_iff (D : edit.Decoding e c learned s)
    (hdrop : D.Drops ((edit.perform e ignoring).transcript c learned s).exchanges)
    (hreads : ReadsOnly c content) (hserves : Serves c content col D.rebuilding D.facts)
    (hcounts : Counts c content col D.rebuilding D.facts)
    (hcolumns : ∀ name ∈ D.rebuilding.target.name :: D.facts.keyColumns,
      col name ∈ (content s).columns) :
    ∀ x ∈ writes D.update ((edit.perform e ignoring).transcript c learned s).exchanges,
      ∀ value key n, x = ⟨.execute D.update (value :: key), .ok n⟩ → (0 < n ↔ .null ∉ key) := by
  obtain ⟨add, result, written, rest, hcopied⟩ := D.copied hdrop
  have htexts := Rebuilding.plan_texts D.planned
  obtain ⟨hdecodes, -, hselect, hupdate⟩ := D.copies ▸ htexts.copy
  -- What is found out changes nothing.
  have hfound := hreads.content_eq (Edit.rebuilding?_asks D.comes
    (D.find.transcript_course c learned s)) (D.find.transcript_answers c learned s)
  rw [← hfound] at hcolumns
  obtain ⟨s₁, s₂, ha, hfilled, hselected⟩ := hcopied.filled htexts hselect hreads hserves
    ((Editor.applyRebuild D.plan ignoring).transcript_answers c _ _) hcolumns
  rw [(D.exchanges_eq ignoring).2.2, hcopied.writes_eq]
  refine hcounts.affects_iff hserves hdecodes hupdate (fun name hname => ?_) hfilled ha
    hcopied.accepted hselected
  unfold Rebuilding.conditions at hname
  split at hname
  · exact hcolumns name (List.mem_singleton.1 hname ▸ List.mem_cons_self)
  · exact hcolumns name (List.mem_cons_of_mem _ hname)

/-- Nothing is dropped unless every row that has a source was written back and every such write was
    accepted. Whether a write has reached its row is not looked at: where the database counts, just
    those with a NULL in the key have not. -/
theorem perform_counted (edit : Edit) (e : Editor) (ignoring : Bool) (c : Connection σ)
    (learned : Option CaseRule) (s : σ) (D : edit.Decoding e c learned s)
    (hdrop : D.Drops ((edit.perform e ignoring).transcript c learned s).exchanges) :
    let t := (edit.perform e ignoring).transcript c learned s
    List.Forall₂ (fun row x => x.failed = false ∧ row.writeBack? D.update D.keyless = some x.request)
        (sourced (selectedRows t.exchanges)) (writes D.update t.exchanges) ∧
      ∀ (content : σ → Content) (col : String → String), ReadsOnly c content →
        Serves c content col D.rebuilding D.facts → Counts c content col D.rebuilding D.facts →
          (∀ name ∈ D.rebuilding.target.name :: D.facts.keyColumns,
            col name ∈ (content s).columns) →
            ∀ x ∈ writes D.update t.exchanges, ∀ value key n,
              x = ⟨.execute D.update (value :: key), .ok n⟩ → (0 < n ↔ .null ∉ key) :=
  ⟨D.forall₂_writes hdrop, fun _ _ => D.affects_iff hdrop⟩

end Edit

/-! ## A database that counts -/

/-- The connection with another report of how many rows are affected. -/
def Connection.recount (c : Connection σ) (count : σ → String → List Value → Nat) : Connection σ where
  answer s
    | .execute sql params =>
      ((c.answer s (.execute sql params)).1.map fun _ => count s sql params,
        (c.answer s (.execute sql params)).2)
    | r => c.answer s r

section Recount

variable {count : σ → String → List Value → Nat}

/-- A reply to a statement is that of the connection, but for the number. -/
theorem Connection.recount_execute {s s' : σ} {sql : String} {params : List Value}
    {reply : Except DatabaseError Nat}
    (h : (c.recount count).answer s (.execute sql params) = (reply, s')) :
    ∃ reply', c.answer s (.execute sql params) = (reply', s') ∧
      reply = reply'.map fun _ => count s sql params := by
  obtain ⟨hreply, hs⟩ := Prod.mk.inj h
  exact ⟨(c.answer s (.execute sql params)).1, Prod.ext rfl hs, hreply.symm⟩

theorem ReadsOnly.recount (h : ReadsOnly c content) : ReadsOnly (c.recount count) content := by
  intro s r hr
  cases r with
  | execute sql params => cases hr
  | _ => exact h s _ hr

theorem Serves.recount (h : Serves c content col w f) :
    Serves (c.recount count) content col w f where
  accepted change hchange sql hsql s params n s' hanswer := by
    obtain ⟨reply, hreply, hn⟩ := Connection.recount_execute hanswer
    cases reply with
    | error e => cases hn
    | ok m => exact h.accepted change hchange sql hsql s params m s' hreply
  failed change hchange sql hsql s params error s' hanswer := by
    obtain ⟨reply, hreply, he⟩ := Connection.recount_execute hanswer
    cases reply with
    | error e => exact h.failed change hchange sql hsql s params e s' hreply
    | ok m => cases he
  selected sql hsql s result s' hanswer := h.selected sql hsql s result s' hanswer

end Recount

namespace Documents

/-- Two documents, one of which has no key. -/
def unkeyed : Content where
  columns := ["ID", "BODY"]
  rows := [table.row 1 (.bytes [72, 105]), fun c => if c = "ID" then .null else .bytes [72, 111]]

/-- The database rejects nothing that it can read, and counts. -/
def counting : Connection Content :=
  (Content.database statements (fun _ => false) id "BODY" ["ID"] catalog).recount fun d sql params =>
    ((statements.get? sql).map (Change.affected id params d)).getD 0

theorem counting_serves : Serves counting id id rebuilding facts :=
  (Content.database_serves (w := rebuilding) (f := facts) readable).recount

theorem counting_counts : Counts counting id id rebuilding facts := by
  intro sql hsql s params n s' hanswer
  obtain ⟨sql', hentry⟩ : ∃ sql', (sql', rebuilding.transfer facts) ∈ statements :=
    ⟨_, List.mem_cons_of_mem _ List.mem_cons_self⟩
  obtain ⟨htext, hread⟩ := text_of_mem hentry
  obtain rfl := Except.ok.inj (htext.symm.trans hsql)
  obtain ⟨reply, _, hn⟩ := Connection.recount_execute hanswer
  cases reply with
  | error e => cases hn
  | ok m =>
    rw [Except.ok.inj hn, hread]
    rfl

/-- The rebuild of a binary column as one of text. -/
def plan : Rebuild where
  temporary := "BODY_TMP"
  addTemporary := "ALTER TABLE DOCUMENTS ADD COLUMN BODY_TMP CLOB"
  copy := .decode "SELECT ID, BODY FROM DOCUMENTS WHERE BODY IS NOT NULL"
    "UPDATE DOCUMENTS SET BODY_TMP = ? WHERE ID = ?" ["ID"]
  dropOld := "ALTER TABLE DOCUMENTS DROP COLUMN BODY"
  rename := "ALTER TABLE DOCUMENTS RENAME COLUMN BODY_TMP TO BODY"
  restoreNullability? := none
  restoreDefault? := none

/-- The documents become text. -/
def decoding (d : Content) :
    (Edit.alterColumn rebuilding.table rebuilding.target).Decoding editor counting none d where
  rebuilding := rebuilding
  find := editor.alterationFacts rebuilding.table rebuilding.target
  facts := facts
  plan := plan
  select := "SELECT ID, BODY FROM DOCUMENTS WHERE BODY IS NOT NULL"
  update := "UPDATE DOCUMENTS SET BODY_TMP = ? WHERE ID = ?"
  comes := rfl
  found := by with_unfolding_all rfl
  planned := rfl
  copies := rfl

/-- What the rebuild exchanges with the database: the second write affects no row. -/
theorem counting_exchanges (learned : Option CaseRule) :
    ((Editor.applyRebuild plan false).transcript counting learned unkeyed).exchanges =
      [⟨.execute plan.addTemporary [], .ok 0⟩,
        ⟨.query "SELECT ID, BODY FROM DOCUMENTS WHERE BODY IS NOT NULL" [],
          .ok ⟨[], [⟨[], [.int32 1, .bytes [72, 105]]⟩, ⟨[], [.null, .bytes [72, 111]]⟩]⟩⟩,
        ⟨.execute "UPDATE DOCUMENTS SET BODY_TMP = ? WHERE ID = ?" [.text "Hi", .int32 1], .ok 1⟩,
        ⟨.execute "UPDATE DOCUMENTS SET BODY_TMP = ? WHERE ID = ?" [.text "Ho", .null], .ok 0⟩,
        ⟨.execute plan.dropOld [], .ok 0⟩, ⟨.execute plan.rename [], .ok 0⟩] := by
  with_unfolding_all rfl

theorem counting_state (learned : Option CaseRule) :
    ((Editor.applyRebuild plan false).transcript counting learned unkeyed).state.rows.map
      (fun row => row "BODY") = [.text "Hi", .null] := by
  with_unfolding_all rfl

/-- What is found out has no part in it. -/
theorem transcript_eq (d : Content) :
    let D := decoding d
    let first := D.find.transcript counting none d
    let next := (Editor.applyRebuild plan false).transcript counting first.result.2 d
    let t := ((Edit.alterColumn rebuilding.table rebuilding.target).perform editor false).transcript
      counting none d
    ((D.Drops t.exchanges ↔ D.Drops next.exchanges) ∧
      selectedRows t.exchanges = selectedRows next.exchanges ∧
        writes D.update t.exchanges = writes D.update next.exchanges) ∧ t.state = next.state := by
  intro D first next t
  have hfound : first.state = d := by with_unfolding_all rfl
  have hexchanges := D.exchanges_eq false
  have hstate := (D.transcript_eq false).2
  dsimp only at hexchanges hstate
  rw [hfound] at hexchanges hstate
  exact ⟨hexchanges, hstate⟩

theorem drops_unkeyed : (decoding unkeyed).Drops (((Edit.alterColumn rebuilding.table
    rebuilding.target).perform editor false).transcript counting none unkeyed).exchanges := by
  refine (transcript_eq unkeyed).1.1.2 ?_
  rw [Edit.Decoding.Drops, counting_exchanges]
  simp [decoding]

end Documents

open Documents in
/-- The document with a key is written back, and the one without is not. -/
theorem Edit.perform_counted_unkeyed :
    let t := ((alterColumn rebuilding.table rebuilding.target).perform editor false).transcript counting
      none unkeyed
    (decoding unkeyed).Drops t.exchanges ∧
      ∀ x ∈ writes (decoding unkeyed).update t.exchanges, ∀ value key n,
        x = ⟨.execute (decoding unkeyed).update (value :: key), .ok n⟩ → (0 < n ↔ .null ∉ key) :=
  ⟨drops_unkeyed, (perform_counted _ editor false counting none unkeyed (decoding unkeyed)
    drops_unkeyed).2 id id Content.database_readsOnly.recount counting_serves counting_counts
      (by decide)⟩

open Documents in
/-- A write that affects no row is followed by the drop, and the document is gone. -/
theorem Edit.perform_counted_missed :
    let t := ((alterColumn rebuilding.table rebuilding.target).perform editor false).transcript counting
      none unkeyed
    (decoding unkeyed).Drops t.exchanges ∧
      ⟨.execute (decoding unkeyed).update [.text "Ho", .null], .ok 0⟩ ∈
        writes (decoding unkeyed).update t.exchanges ∧
      t.state.rows.map (fun row => row "BODY") = [.text "Hi", .null] := by
  refine ⟨drops_unkeyed, ?_, ?_⟩
  · rw [(transcript_eq unkeyed).1.2.2, counting_exchanges]
    simp [decoding, writes, Request.writes]
  · rw [(transcript_eq unkeyed).2]
    exact counting_state _

end SchemaChange
