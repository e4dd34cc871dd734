import SchemaChange.Proofs.Call.Report

/-!
# Catalogs that are shown

What a database has, as its catalog lists it, and connections that answer look-ups by it
(`Connection.Shows`). On such a connection no look-up fails, so a question has one answer
(`Finds`), and whether a change is made hangs on that answer alone (`Settles`).

* `Finds.bind`, `Finds.inCatalog`, `Finds.caseRule`: what is found is passed on;
* `Settles.after`: what is found comes first, and is not sent;
* `Settles.runUnless`, `Settles.runAll`: what is sent otherwise.
-/

namespace SchemaChange

/-- What a database has, with how it folds names and whether its filters tell ASCII capitals from
    small letters. -/
structure Catalog where
  rule : CaseRule
  exact : Bool := false
  tables : List TableInfo := []
  columns : List ColumnInfo := []
  primaryKeys : List PrimaryKeyColumn := []
  foreignKeys : List ForeignKeyColumn := []
  indexes : List IndexInfo := []

namespace Catalog

/-- Whether a name passes a filter. -/
def passes (k : Catalog) (filter? : Option String) (name : String) : Bool :=
  filter?.all fun filter => if k.exact then filter == name else Text.sameName filter name

/-- What the catalog says to a request, if it is a look-up in it. -/
def answer? (k : Catalog) : (r : Request) → Option r.Answer
  | .identifierCase => some k.rule
  | .listTables table? => some (k.tables.filter (k.passes table? ·.name))
  | .getColumns table? column? =>
    some (k.columns.filter fun c => k.passes table? c.table && k.passes column? c.name)
  | .getPrimaryKeys table? => some (k.primaryKeys.filter (k.passes table? ·.table))
  | .getImportedKeys table? => some (k.foreignKeys.filter (k.passes table? ·.table))
  | .getCrossReference parent? foreign? =>
    some (k.foreignKeys.filter fun f =>
      k.passes parent? f.referencedTable && k.passes foreign? f.table)
  | .getIndexes table? => some (k.indexes.filter (k.passes table? ·.table))
  | _ => none

/-- The case rule that an inspector goes by: that of its options, or else that of the database. -/
def ruleFor (k : Catalog) (i : Inspector) : CaseRule :=
  i.options.case?.getD k.rule

/-- The builder that an inspector makes. -/
def builderFor (k : Catalog) (i : Inspector) : Builder :=
  ⟨i.dialect, { i.options with case? := some (k.ruleFor i) }⟩

/-- What was learned of the case rule is true. -/
def Knows (k : Catalog) (learned : Option CaseRule) : Prop :=
  ∀ rule ∈ learned, rule = k.rule

theorem knows_none (k : Catalog) : k.Knows none := by
  rintro _ ⟨⟩

/-- What the catalog replies to a request; it takes no statements. -/
def reply (k : Catalog) (r : Request) : r.Reply :=
  match k.answer? r with
  | some answer => .ok answer
  | none => .error (.notSupported "a catalog is only looked up")

/-- What a catalog has an answer to is replied without an error. -/
theorem reply_of_answer? {k : Catalog} {r : Request} {a : r.Answer} (h : k.answer? r = some a) :
    k.reply r = .ok a := by
  rw [reply, h]

/-- The catalog as a connection of its own. -/
def connection : Connection Catalog where
  answer k r := (k.reply r, k)

end Catalog

/-- The connection answers look-ups by the catalog that its state has, and they do not change it. -/
structure Connection.Shows {σ : Type} (c : Connection σ) (catalog : σ → Catalog) : Prop where
  answers : ∀ s r a, (catalog s).answer? r = some a → (c.answer s r).1 = .ok a
  keeps : ∀ s r a, (catalog s).answer? r = some a → catalog (c.answer s r).2 = catalog s

/-- The connection that answers from a catalog shows this catalog. -/
theorem Catalog.connection_shows : connection.Shows id where
  answers _ _ _ h := reply_of_answer? h
  keeps _ _ _ _ := rfl

variable {α β σ : Type} {c : Connection σ} {catalog : σ → Catalog} {k : Catalog} {i : Inspector}
  {copies : Bool}

/-! ## What is found -/

/-- Where the catalog is `k`, the operation looks things up and comes to `a`. -/
def Finds (c : Connection σ) (catalog : σ → Catalog) (k : Catalog) (o : Operation α) (a : α) : Prop :=
  ∀ ⦃l xs r l' s s'⦄, o.Course l xs r l' → c.Answers s xs s' → k.Knows l → catalog s = k →
    r = .ok a ∧ k.Knows l' ∧ catalog s' = k ∧ ∀ x ∈ xs, x.request.looksUp true = true

namespace Finds

theorem pure (a : α) : Finds c catalog k (pure a) a := by
  intro l xs r l' s s' hc ha hl hs
  obtain ⟨rfl, rfl, rfl⟩ := Operation.course_pure_iff.1 hc
  obtain rfl := Connection.answers_nil_iff.1 ha
  exact ⟨rfl, hl, hs, fun _ hx => absurd hx List.not_mem_nil⟩

/-- What is found by two operations one after the other is found from what the first one found. -/
theorem bind {o : Operation α} {f : α → Operation β} {a : α} {b : β} (ho : Finds c catalog k o a)
    (hf : Finds c catalog k (f a) b) : Finds c catalog k (o >>= f) b := by
  intro l xs r l' s s' hc ha hl hs
  rcases Operation.course_bind_iff.1 hc with ⟨_, l₁, ys, zs, hcourse, hnext, rfl⟩ | ⟨e, hfail, rfl⟩
  · obtain ⟨s₁, hys, hzs⟩ := Connection.answers_append_iff.1 ha
    obtain ⟨⟨⟩, hl₁, hs₁, hlook⟩ := ho hcourse hys hl hs
    obtain ⟨hr, hl', hs', hlook'⟩ := hf hnext hzs hl₁ hs₁
    exact ⟨hr, hl', hs', fun x hx => (List.mem_append.1 hx).elim (hlook x) (hlook' x)⟩
  · cases (ho hfail ha hl hs).1

section Catalog

variable (hshows : c.Shows catalog) (hhas : i.endpoint.hasCatalog = true)

include hshows hhas

/-- A look-up in the catalog that is shown comes to the answer of the catalog. -/
theorem inCatalog (context : String) {r : Request} {a : r.Answer} (hr : r.introspects = true)
    (ha : k.answer? r = some a) : Finds c catalog k (i.inCatalog context r) a := by
  intro l xs _ l' s s' hc hanswers hl hs
  obtain ⟨rfl, hlookup⟩ := Inspector.course_inCatalog_iff.1 hc
  rw [if_pos hhas] at hlookup
  obtain ⟨reply, rfl, rfl⟩ := hlookup
  obtain ⟨s₁, hanswer, hnil⟩ := Connection.answers_cons_iff.1 hanswers
  obtain rfl := Connection.answers_nil_iff.1 hnil
  rw [← hs] at ha
  have hreply := hshows.answers s r a ha
  have hkeeps := hshows.keeps s r a ha
  rw [show c.answer s r = (reply, s') from hanswer] at hreply hkeeps
  obtain rfl : reply = .ok a := hreply
  refine ⟨rfl, hl, hkeeps.trans hs, fun x hx => ?_⟩
  rw [List.mem_singleton.1 hx]
  exact Request.looksUp_of_introspects hr

/-- The rule that is resolved is the one of the catalog, unless the options state another. -/
theorem caseRule : Finds c catalog k i.caseRule (k.ruleFor i) := by
  intro l xs r l' s s' hc ha hl hs
  have hc := Inspector.course_caseRule_iff.1 hc
  unfold Catalog.ruleFor
  cases hcase : i.options.case? with
  | some rule =>
    rw [hcase] at hc
    obtain ⟨rfl, rfl, rfl⟩ := hc
    obtain rfl := Connection.answers_nil_iff.1 ha
    exact ⟨rfl, hl, hs, fun _ hx => absurd hx List.not_mem_nil⟩
  | none =>
    rw [hcase, Option.none_or] at hc
    cases l with
    | some rule =>
      obtain ⟨rfl, rfl, rfl⟩ := hc
      obtain rfl := Connection.answers_nil_iff.1 ha
      exact ⟨congrArg Except.ok (hl rule rfl), hl, hs, fun _ hx => absurd hx List.not_mem_nil⟩
    | none =>
      obtain ⟨rfl, _, hs', hlook⟩ := inCatalog hshows hhas _ rfl rfl hc.1 ha hl hs
      refine ⟨rfl, ?_, hs', hlook⟩
      rw [hc.2]
      rintro _ ⟨⟩
      rfl

theorem builder : Finds c catalog k i.builder (k.builderFor i) :=
  (caseRule hshows hhas).bind (.pure _)

theorem fold (name : String) : Finds c catalog k (i.fold name) ((k.ruleFor i).apply name) :=
  (caseRule hshows hhas).bind (.pure _)

end Catalog

end Finds

/-! ## What is sent -/

theorem Request.looksUp_of_true {r : Request} (h : r.looksUp true = true) :
    r.looksUp copies = true := by
  cases r <;> first | exact h | cases h

/-- Where the catalog is `k`, what the operation sends and its result are as `Q` says, and what was
    learned stays true of `k`. -/
def Settles (c : Connection σ) (catalog : σ → Catalog) (k : Catalog) (copies : Bool)
    (o : Operation α) (Q : List Exchange → Except Failure α → Prop) : Prop :=
  ∀ ⦃l xs r l' s s'⦄, o.Course l xs r l' → c.Answers s xs s' → k.Knows l → catalog s = k →
    Q (sent copies xs) r ∧ k.Knows l'

namespace Settles

variable {Q : List Exchange → Except Failure β → Prop}

/-- What is found comes first. -/
theorem after {o : Operation α} {f : α → Operation β} {a : α} (ho : Finds c catalog k o a)
    (hf : Settles c catalog k copies (f a) Q) : Settles c catalog k copies (o >>= f) Q := by
  intro l xs r l' s s' hc ha hl hs
  rcases Operation.course_bind_iff.1 hc with ⟨_, l₁, ys, zs, hcourse, hnext, rfl⟩ | ⟨e, hfail, rfl⟩
  · obtain ⟨s₁, hys, hzs⟩ := Connection.answers_append_iff.1 ha
    obtain ⟨⟨⟩, hl₁, hs₁, hlook⟩ := ho hcourse hys hl hs
    have hsent : sent copies (ys ++ zs) = sent copies zs := by
      rw [sent, List.filter_append, ← sent, ← sent,
        sent_of_looksUp fun x hx => Request.looksUp_of_true (hlook x hx), List.nil_append]
    rw [hsent]
    exact hf hnext hzs hl₁ hs₁
  · cases (ho hfail ha hl hs).1

/-- What the builder makes. -/
theorem built {made : Except BuildError α} {f : α → Operation β} {a : α} (hmade : made = .ok a)
    (hf : Settles c catalog k copies (f a) Q) :
    Settles c catalog k copies (Operation.built made >>= f) Q := by
  rw [hmade]
  exact hf

/-- What the builder makes with the case rule of the database. -/
theorem build (hshows : c.Shows catalog) {e : Editor}
    (hhas : e.inspector.endpoint.hasCatalog = true) {make : Builder → Except BuildError α}
    {f : α → Operation β} {a : α} (hmade : make (k.builderFor e.inspector) = .ok a)
    (hf : Settles c catalog k copies (f a) Q) : Settles c catalog k copies (e.build make >>= f) Q := by
  unfold Editor.build
  rw [bind_assoc]
  exact .after (.builder hshows hhas) (.built hmade hf)

/-- On a connection that shows the catalog, what is sent and what comes of it is settled. -/
theorem transcript {o : Operation β} (h : Settles c catalog k copies o Q)
    {learned : Option CaseRule} {s : σ} (hknows : k.Knows learned) (hs : catalog s = k) :
    Q (sent copies (o.transcript c learned s).exchanges) (o.transcript c learned s).result.1 ∧
      k.Knows (o.transcript c learned s).result.2 :=
  h (o.transcript_course c learned s) (o.transcript_answers c learned s) hknows hs

end Settles

theorem Finds.transcript {o : Operation α} {a : α} {learned : Option CaseRule} {s : σ}
    (h : Finds c catalog (catalog s) o a) (hknows : (catalog s).Knows learned) :
    (o.transcript c learned s).result.1 = .ok a :=
  (h (o.transcript_course c learned s) (o.transcript_answers c learned s) hknows rfl).1

/-- A change that is skipped if it is `done`, and otherwise sends the statements in turn. -/
def Skips (ignoring done : Bool) (sqls : List String) (xs : List Exchange)
    (r : Except Failure Outcome) : Prop :=
  if done then xs = [] ∧ r = .ok .skipped
  else InTurn Exchange.failed (sqls.map fun sql => .execute sql []) xs ∧ r = verdict ignoring xs

namespace Settles

variable {ignoring : Bool}

theorem skip (sqls : List String) :
    Settles c catalog k copies (pure .skipped) (Skips ignoring true sqls) := by
  intro l xs r l' s s' hc _ hl _
  obtain ⟨rfl, rfl, rfl⟩ := Operation.course_pure_iff.1 hc
  exact ⟨⟨rfl, rfl⟩, hl⟩

/-- Statements are sent in turn. -/
theorem send {o : Operation Outcome} {sqls : List String}
    (hasks : o.Asks fun r => r.looksUp copies = false)
    (hsends : Sends o ignoring (InTurn Exchange.failed (sqls.map fun sql => .execute sql []))) :
    Settles c catalog k copies o (Skips ignoring false sqls) := by
  intro l xs r l' s s' hc _ hl _
  obtain ⟨hturn, rfl, rfl⟩ := hsends hc
  rw [sent_of_not_looksUp (hasks hc)]
  exact ⟨⟨hturn, rfl⟩, hl⟩

theorem runAll (sqls : List String) :
    Settles c catalog k copies (Editor.runAll ignoring sqls) (Skips ignoring false sqls) :=
  send (Editor.runAll_plain (fun _ _ => rfl) ignoring sqls).asks (Editor.runAll_sends ignoring sqls)

/-- A statement is sent unless what it is for is done. -/
theorem runUnless (done : Bool) (sql : String) :
    Settles c catalog k copies (Editor.runUnless done sql ignoring) (Skips ignoring done [sql]) := by
  cases done with
  | true => exact skip [sql]
  | false =>
    exact send (Editor.run_plain (fun _ _ => rfl) ignoring sql).asks (Editor.run_sends sql ignoring)

end Settles

end SchemaChange
