import SchemaChange.Proofs.Catalog.Existence
import SchemaChange.Proofs.Course.Series
import SchemaChange.Proofs.Rebuild.Plan

/-!
# Columns added again and again

A column with a default takes two statements: one adds it, the other writes the default into the rows
that are there. If the second one is rejected then the column is there all the same, and to add it once
more is skipped, so that the default is not written by a later call either.

* `Builder.addColumn_of_default`: the two statements;
* `Edit.addColumn_series`: in any series of such calls, one is applied just if it wrote the default, and
  skipped just if an earlier one added the column;
* `Edit.addColumn_unfilled`: a column that is skipped and has no default in its rows.
-/

namespace SchemaChange

/-! ## Statements that went through -/

/-- Whether the statement was sent and went through. -/
def Exchange.accepts (x : Exchange) (sql : String) : Bool :=
  x.request = .execute sql [] && !x.failed

/-- Whether the statement went through at some point. -/
def accepts (xs : List Exchange) (sql : String) : Bool :=
  xs.any (·.accepts sql)

/-- What is `listed` comes to be so as soon as the statement `add` goes through, and not otherwise, and
    stays so. -/
def Connection.Lists {σ : Type} (c : Connection σ) (listed : σ → Bool) (add : String) : Prop :=
  ∀ s r, listed (c.answer s r).2 = (listed s || Exchange.accepts ⟨r, (c.answer s r).1⟩ add)

variable {σ : Type} {c : Connection σ} {listed : σ → Bool} {add fill sql : String}
  {xs ys : List Exchange} {ignoring found : Bool} {r : Except Failure Outcome}

theorem Connection.Lists.answers (h : c.Lists listed add) {s s' : σ} (ha : c.Answers s xs s') :
    listed s' = (listed s || accepts xs add) := by
  induction xs generalizing s with
  | nil => simp [accepts, Connection.answers_nil_iff.1 ha]
  | cons x xs ih =>
    obtain ⟨s₁, hanswer, hrest⟩ := Connection.answers_cons_iff.1 ha
    have hstep := h s x.request
    rw [hanswer] at hstep
    rw [ih hrest, hstep, accepts, accepts, List.any_cons, Bool.or_assoc]

/-- Statements are among what is sent. -/
theorem accepts_sent (copies : Bool) : accepts (sent copies xs) sql = accepts xs sql := by
  rw [accepts, sent, List.any_filter, accepts]
  refine List.any_congr rfl fun x => ?_
  obtain ⟨r, reply⟩ := x
  cases r <;> simp [Exchange.accepts, Request.looksUp, Request.isLookup]

/-! ## The two statements -/

namespace Builder

variable {b : Builder} {table : String} {column : ColumnSpec}

/-- A column with a default takes two statements. -/
theorem addColumn_of_default {batch : Batch} {value : Value} (h : b.addColumn table column = .ok batch)
    (hdefault : column.default? = some value) : ∃ add fill, batch = ⟨[add, fill]⟩ ∧
      b.addClause table { column with nullable := true } = .ok add ∧
        b.backfill table column.name value = .ok fill := by
  rw [addColumn, hdefault] at h
  obtain ⟨add, hadd, h⟩ := bind_ok h
  obtain ⟨fill, hfill, h⟩ := bind_ok h
  exact ⟨add, fill, (Except.ok.inj h).symm, by rwa [hdefault], hfill⟩

/-- The two are told apart by their first words. -/
theorem addColumn_ne (h : b.addColumn table column = .ok ⟨[add, fill]⟩) : add ≠ fill := by
  cases hdefault : column.default? with
  | none =>
    rw [addColumn, hdefault] at h
    obtain ⟨only, _, h⟩ := bind_ok h
    cases Except.ok.inj h
  | some value =>
    obtain ⟨_, _, ⟨⟩, hadd, hfill⟩ := addColumn_of_default h hdefault
    obtain ⟨tableName, _, hadd⟩ := bind_ok hadd
    obtain ⟨definition, _, ⟨⟩⟩ := bind_ok hadd
    obtain ⟨tableName, _, hfill⟩ := bind_ok hfill
    obtain ⟨columnName, _, hfill⟩ := bind_ok hfill
    obtain ⟨text, _, ⟨⟩⟩ := bind_ok hfill
    intro heq
    have hwords := congrArg String.toList heq
    simp [String.toList_append] at hwords

end Builder

/-- Of two statements in turn, the second one goes through just if both were applied. -/
theorem verdict_applied_iff (hne : add ≠ fill)
    (hturn : InTurn Exchange.failed [.execute add [], .execute fill []] xs) :
    verdict ignoring xs = .ok .applied ↔ accepts xs fill = true := by
  rw [verdict_eq_applied_iff]
  obtain ⟨x, ys, rfl, hx, hrest⟩ := InTurn.cons_iff.1 hturn
  have hfirst : x.accepts fill = false := by simp [Exchange.accepts, hx, hne]
  rw [accepts, List.any_cons, hfirst, Bool.false_or]
  split at hrest
  · simp [hrest, ‹x.failed = true›]
  · obtain ⟨y, rfl, hy⟩ := InTurn.singleton_iff.1 hrest
    simp [eq_false_of_ne_true ‹¬x.failed = true›, Exchange.accepts, hy]

/-- What a call tells that is skipped if `found`, and otherwise sends the two statements. -/
theorem Skips.told (h : Skips ignoring found [add, fill] (sent false xs) r) (hne : add ≠ fill) :
    (r = .ok .applied ↔ accepts xs fill = true) ∧ (r = .ok .skipped ↔ found = true) := by
  rw [← accepts_sent false]
  cases found with
  | true =>
    obtain ⟨hsent, rfl⟩ := h
    rw [hsent]
    exact ⟨⟨nofun, nofun⟩, fun _ => rfl, fun _ => rfl⟩
  | false =>
    obtain ⟨hturn, rfl⟩ := h
    refine ⟨verdict_applied_iff hne hturn, ?_⟩
    unfold verdict
    split
    · simp
    · split <;> simp

/-! ## Series of calls -/

/-- Whether a column is listed under the names that the database stores. -/
def Catalog.lists (k : Catalog) (i : Inspector) (table column : String) : Bool :=
  (k.column? ((k.ruleFor i).apply table) ((k.ruleFor i).apply column)).isSome

/-- What is known after some calls: the case rule, and that the column is listed if one of them added
    it. -/
def Adding (catalog : σ → Catalog) (i : Inspector) (table column add : String)
    (earlier : List (Operation.Transcript Outcome σ)) (learned : Option CaseRule) (s : σ) : Prop :=
  (catalog s).Knows learned ∧
    (catalog s).lists i table column = earlier.any fun u => accepts u.exchanges add

section Series

variable {e : Editor} {table : String} {column : ColumnSpec} {catalog : σ → Catalog}
  {rule : CaseRule} {s : σ} (hshows : c.Shows catalog)
  (hhas : e.inspector.endpoint.hasCatalog = true) (hrule : ∀ s, (catalog s).rule = rule)
  (hmade : ((catalog s).builderFor e.inspector).addColumn table column = .ok ⟨[add, fill]⟩)

include hrule in
/-- All states fold names in the same way. -/
theorem ruleFor_eq (s₁ : σ) : (catalog s₁).ruleFor e.inspector = (catalog s).ruleFor e.inspector := by
  rw [Catalog.ruleFor, Catalog.ruleFor, hrule, hrule]

include hshows hhas hrule hmade

theorem addColumn_settles (ignoring : Bool) (s₁ : σ) :
    Settles c catalog (catalog s₁) false (e.addColumn table column ignoring)
      (Skips ignoring (Text.sameName (((catalog s).ruleFor e.inspector).apply column.name)
        column.name && (catalog s₁).lists e.inspector table column.name) [add, fill]) := by
  rw [← ruleFor_eq hrule s₁]
  refine .addColumn hshows hhas ?_ (.columnExists hshows hhas table column.name)
  rw [Catalog.builderFor, ruleFor_eq hrule (s := s) s₁]
  exact hmade

/-- One more call. -/
theorem addColumn_adding (ignoring : Bool)
    (hlists : c.Lists (fun s => (catalog s).lists e.inspector table column.name) add)
    {earlier : List (Operation.Transcript Outcome σ)} {learned : Option CaseRule} {s₁ : σ}
    (h : Adding catalog e.inspector table column.name add earlier learned s₁) :
    let t := (e.addColumn table column ignoring).transcript c learned s₁
    Adding catalog e.inspector table column.name add (earlier ++ [t]) t.result.2 t.state := by
  obtain ⟨hknows, hlisted⟩ := h
  refine ⟨fun r hr => ?_, ?_⟩
  · have hlearned := ((addColumn_settles hshows hhas hrule hmade ignoring s₁).transcript hknows rfl).2
    rw [hlearned r hr, hrule, hrule]
  · have hnow := hlists.answers (Operation.transcript_answers (e.addColumn table column ignoring) c
      learned s₁)
    rw [hnow, hlisted, List.any_append, List.any_cons, List.any_nil, Bool.or_false]

end Series

/-- Whatever is rejected and ignored, a call is applied just if it wrote the default, and skipped just if
    an earlier one added the column under a name that is found. -/
theorem Edit.addColumn_series (e : Editor) (table : String) (column : ColumnSpec) (flags : List Bool)
    (c : Connection σ) (catalog : σ → Catalog) (rule : CaseRule) (learned : Option CaseRule) (s : σ)
    (add fill : String) (hshows : c.Shows catalog) (hhas : e.inspector.endpoint.hasCatalog = true)
    (hrule : ∀ s, (catalog s).rule = rule) (hknows : (catalog s).Knows learned)
    (hmade : ((catalog s).builderFor e.inspector).addColumn table column = .ok ⟨[add, fill]⟩)
    (hlists : c.Lists (fun s => (catalog s).lists e.inspector table column.name) add)
    (habsent : (catalog s).lists e.inspector table column.name = false) :
    ∀ earlier t later,
      Operation.series c (flags.map (e.addColumn table column)) learned s = earlier ++ t :: later →
        (t.result.1 = .ok .applied ↔ accepts t.exchanges fill = true) ∧
          (t.result.1 = .ok .skipped ↔
            Text.sameName (((catalog s).ruleFor e.inspector).apply column.name) column.name = true ∧
              ∃ u ∈ earlier, accepts u.exchanges add = true) := by
  intro earlier t later hseries
  obtain ⟨o, ho, learned', s', ⟨hknows', hlisted⟩, rfl⟩ := Operation.series_invariant
    (I := Adding catalog e.inspector table column.name add) ⟨hknows, habsent⟩
    (fun before learned s₁ h o ho => by
      obtain ⟨ignoring, _, rfl⟩ := List.mem_map.1 ho
      exact addColumn_adding hshows hhas hrule hmade ignoring hlists h) hseries
  obtain ⟨ignoring, _, rfl⟩ := List.mem_map.1 ho
  -- What this call finds listed is what an earlier one added.
  have hcall := (addColumn_settles hshows hhas hrule hmade ignoring s').transcript hknows' rfl
  have htold := hcall.1.told (Builder.addColumn_ne hmade)
  rw [hlisted, Bool.and_eq_true_iff, List.any_eq_true] at htold
  exact htold

/-! ## A default that is never written -/

namespace Backfill

/-- The statement that adds the column. -/
def addSql : String := "ALTER TABLE T ADD COLUMN B INTEGER DEFAULT 0"

/-- The statement that fills it. -/
def fillSql : String := "UPDATE T SET B = 0"

/-- A table that has the column or has no columns. -/
def catalog (there : Bool) : Catalog where
  rule := .verbatim
  columns := if there then [⟨"T", "B", 1, "INTEGER", .integer, true, none, none⟩] else []

/-- A database that adds the column and rejects every other statement. -/
def database : Connection Bool where
  answer there r := match r with
    | .execute sql params =>
      if sql = addSql ∧ params = [] then (.ok 0, true) else (.error (.execution sql "rejected"), there)
    | r => ((catalog there).reply r, there)

theorem database_shows : database.Shows catalog where
  answers there r _ h := by
    cases r with
    | execute sql params => cases h
    | _ => exact Catalog.reply_of_answer? h
  keeps there r _ h := by
    cases r with
    | execute sql params => cases h
    | _ => rfl

theorem catalog_lists (there : Bool) :
    (catalog there).lists editor.inspector "T" column.name = there := by
  cases there <;> rfl

theorem database_lists :
    database.Lists (fun there => (catalog there).lists editor.inspector "T" column.name) addSql := by
  intro there r
  simp only [catalog_lists]
  cases r with
  | execute sql params =>
    by_cases h : sql = addSql ∧ params = []
    · simp [database, h, Exchange.accepts, Exchange.failed, Exchange.error?]
    · simp [database, h, Exchange.accepts, Exchange.failed, Exchange.error?]
  | _ => simp [database, Exchange.accepts]

theorem added : ((catalog false).builderFor editor.inspector).addColumn "T" column =
    .ok ⟨[addSql, fillSql]⟩ := by
  rfl

/-- A call, and the same call once more. -/
def first : Operation.Transcript Outcome Bool :=
  (editor.addColumn "T" column true).transcript database none false

/-- The second call, which goes on from where the first one left the database. -/
def second : Operation.Transcript Outcome Bool :=
  (editor.addColumn "T" column true).transcript database first.result.2 first.state

end Backfill

open Backfill in
/-- The second call is skipped, as the first one added the column. -/
theorem Edit.addColumn_series_backfill :
    (second.result.1 = .ok .applied ↔ accepts second.exchanges fillSql = true) ∧
      (second.result.1 = .ok .skipped ↔
        Text.sameName (((Backfill.catalog false).ruleFor editor.inspector).apply column.name)
          column.name = true ∧ ∃ u ∈ [first], accepts u.exchanges addSql = true) :=
  addColumn_series editor "T" column [true, true] database Backfill.catalog .verbatim none false
    addSql fillSql database_shows rfl (fun _ => rfl) (Catalog.knows_none _) added database_lists
    (catalog_lists false) [first] second [] rfl

open Backfill in
/-- The first call adds the column and has the rejection of its default ignored, the second one is
    skipped, and the default is never written. -/
theorem Edit.addColumn_unfilled :
    let ts := Operation.series database ([true, true].map (editor.addColumn "T" column)) none false
    ((Backfill.catalog false).lists editor.inspector "T" column.name = false ∧ database.Lists
        (fun there => (Backfill.catalog there).lists editor.inspector "T" column.name) addSql) ∧
      ts.map (·.result.1) = [.ok .failureIgnored, .ok .skipped] ∧
      ts.any (accepts ·.exchanges fillSql) = false := by
  exact ⟨⟨catalog_lists false, database_lists⟩, rfl, rfl⟩

end SchemaChange
