import SchemaChange.Proofs.Call.Filters
import SchemaChange.Proofs.Call.Report
import SchemaChange.Proofs.Statement.Alteration

/-!
# NULL allowed or forbidden

What becomes of a column in which an editor allows or forbids NULL. The catalog is asked for the column, and a
statement is sent only if the column is not as it is to be. The statement is made from the type that was
reported, and from nothing else. Where the dialect defines the column anew, which is MySQL's way, a default
that was reported is therefore lost.

* `Editor.setColumnNullable_changes`: the column after the statement, in every dialect;
* `Editor.setColumnNullable_dropsDefault`: a default on MySQL.
-/

namespace SchemaChange

variable {σ : Type} {l l' : Option CaseRule} {xs : List Exchange} {table column : String}
  {nullable ignoring : Bool}

/-- Among the exchanges the catalog reports the column that the names stand for under a case rule. -/
def ReportsColumn (rule : CaseRule) (table column : String) (info : ColumnInfo)
    (xs : List Exchange) : Prop :=
  ∃ columns, ⟨.getColumns (some (rule.apply table)) (some (rule.apply column)), .ok columns⟩ ∈ xs ∧
    columns.find? (Text.sameName ·.name column) = some info

theorem ReportsColumn.append {rule : CaseRule} {info : ColumnInfo}
    (h : ReportsColumn rule table column info xs) (ys : List Exchange) :
    ReportsColumn rule table column info (xs ++ ys) := by
  obtain ⟨columns, hmem, hinfo⟩ := h
  exact ⟨columns, List.mem_append_left ys hmem, hinfo⟩

/-- A column that was required and not missed has been reported. -/
theorem Inspector.course_requireColumn {i : Inspector} {info : ColumnInfo}
    (h : (i.requireColumn table column).Course l xs (.ok info) l') :
    ∃ rule, i.options.case?.or l' = some rule ∧ ReportsColumn rule table column info xs := by
  obtain ⟨info?, l₁, ys, zs, hinfo, hfound, rfl⟩ := Operation.course_bind_ok h
  cases info? with
  | none => cases (Operation.course_throw_iff.1 hfound).2.1
  | some info' =>
    obtain ⟨rfl, hsame, rfl⟩ := Operation.course_pure_iff.1 hfound
    obtain rfl := Except.ok.inj hsame
    obtain ⟨rule, l₂, as, bs, hrule, hasked, rfl⟩ := Operation.course_bind_ok hinfo
    obtain ⟨columns, l₃, cs, ds, hcolumns, hfind, rfl⟩ := Operation.course_bind_ok hasked
    obtain ⟨rfl, hsome, rfl⟩ := Operation.course_pure_iff.1 hfind
    obtain ⟨rfl, hcatalog⟩ := course_inCatalog_iff.1 hcolumns
    split at hcatalog
    · obtain ⟨_ | reported, rfl, hreply⟩ := hcatalog <;> cases hreply
      exact ⟨rule, known_of_caseRule hrule, columns, by simp, (Except.ok.inj hsome).symm⟩
    · cases hcatalog.2

namespace Editor

variable {e : Editor}

/-- NULL is allowed or forbidden in a column by the one statement that was sent. -/
structure SetsNullable (e : Editor) (table column : String) (nullable : Bool) (rule : CaseRule)
    (info : ColumnInfo) (sql : String) (xs : List Exchange) : Prop where
  reported : ReportsColumn rule table column info xs
  differs : info.nullable ≠ nullable
  single : ∃ reply, sent false xs = [⟨.execute sql [], reply⟩]
  /-- Of what was reported only the type goes into the statement. -/
  made : (e.inspector.toldBuilder rule).setNullable table column (some info.declared) nullable = .ok sql

/-- A statement is made under the rule that is known by then. -/
theorem course_build {α : Type} {make : Builder → Except BuildError α} {a : α} {rule : CaseRule}
    (hknown : e.inspector.options.case?.or l = some rule) (h : (e.build make).Course l xs (.ok a) l') :
    make (e.inspector.toldBuilder rule) = .ok a := by
  obtain ⟨b, l₁, ys, zs, hb, hmade, rfl⟩ := Operation.course_bind_ok h
  obtain rfl := Except.ok.inj (Inspector.builder_eq_of_known hknown hb)
  exact (Operation.course_built_ok hmade).2.1

/-- Look-ups come first, and a statement follows them if the column is not as it is to be. -/
theorem course_setColumnNullable {r : Except Failure Outcome}
    (h : (e.setColumnNullable table column nullable ignoring).Course l xs r l') :
    sent false xs = [] ∨
      ∃ rule info sql, e.SetsNullable table column nullable rule info sql xs := by
  have hrequire : (e.inspector.requireColumn table column).Asks fun r => r.looksUp false = true :=
    (e.inspector.requireColumn_looksUp table column).asks
  rcases Operation.course_bind_iff.1 h with ⟨info, l₁, ys, zs, hinfo, hset, rfl⟩ | ⟨_, hmissing, -⟩
  case inr => exact .inl (sent_of_looksUp (hrequire hmissing))
  have hys := hrequire hinfo
  obtain ⟨rule, hknown, hreported⟩ := Inspector.course_requireColumn hinfo
  split at hset
  case isTrue =>
    -- The column is as it is to be.
    obtain ⟨rfl, -, -⟩ := Operation.course_pure_iff.1 hset
    rw [List.append_nil]
    exact .inl (sent_of_looksUp hys)
  case isFalse hdiffers =>
    have hbuild : (e.build (·.setNullable table column (some info.declared) nullable)).Asks
        fun r => r.looksUp false = true :=
      (e.build_looksUp _).asks
    rcases Operation.course_bind_iff.1 hset with ⟨sql, l₂, bs, cs, hmade, hrun, rfl⟩ | ⟨_, hrefused, -⟩
    case inr =>
      exact .inl (sent_of_looksUp (List.forall_mem_append.2 ⟨hys, hbuild hrefused⟩))
    obtain ⟨hturn, -, -⟩ := run_sends sql ignoring hrun
    obtain ⟨⟨request, reply⟩, rfl, rfl⟩ := InTurn.singleton_iff.1 hturn
    refine .inr ⟨rule, info, sql, hreported.append _, hdiffers, ⟨reply, ?_⟩, course_build hknown hmade⟩
    rw [← List.append_assoc]
    exact sent_append (List.forall_mem_append.2 ⟨hys, hbuild hmade⟩) (List.forall_mem_singleton.2 rfl)

/-- If a statement is sent, it is the only one, and the column that was reported is not yet as it is to
    be. Its type is kept, and so is its default except on MySQL, where it has none any more. -/
theorem setColumnNullable_changes (e : Editor) (table column : String) (nullable ignoring : Bool)
    (c : Connection σ) (learned : Option CaseRule) (s : σ)
    (hsent : sent false
      ((e.setColumnNullable table column nullable ignoring).transcript c learned s).exchanges ≠ []) :
    ∃ rule info sql,
      e.SetsNullable table column nullable rule info sql
        ((e.setColumnNullable table column nullable ignoring).transcript c learned s).exchanges ∧
      ((e.dialect = .mySql → IsBareType e.dialect info.declared) →
        ∃ a, (e.inspector.toldBuilder rule).Alters table column sql a ∧ a.apply info.attributes =
          ⟨info.declared, nullable, if e.dialect = .mySql then none else info.default?⟩) := by
  have hcourse := (e.setColumnNullable table column nullable ignoring).transcript_course c learned s
  obtain ⟨rule, info, sql, hsets⟩ := (course_setColumnNullable hcourse).resolve_left hsent
  exact ⟨rule, info, sql, hsets, fun hbare => Builder.setNullable_alters hbare hsets.made⟩

/-! ## A column with a default -/

namespace Nullability

/-- A column that is not to be NULL and counts from five. -/
def counter : ColumnInfo :=
  ⟨"T", "C", 1, "INT", .integer, false, some "5", none⟩

/-- The only table has the one column, and takes all statements. -/
def connection : Connection Unit where
  answer _ r := (match r with
    | .getColumns _ _ => .ok [counter]
    | .execute _ _ => .ok 0
    | _ => .error (.metadata "not asked for"), ())

/-- An editor that takes names as they are. -/
def editor (dialect : Dialect) : Editor where
  inspector := ⟨⟨"driver", "product", true⟩, dialect, { case? := some .verbatim }⟩
  config := { driver := "driver", url := "url" }

/-- What is asked and sent to allow NULL in the column. -/
theorem exchanges_eq :
    (((editor .mySql).setColumnNullable "T" "C" true false).transcript connection none ()).exchanges =
      [⟨.getColumns (some "T") (some "C"), .ok [counter]⟩,
        ⟨.execute "ALTER TABLE T MODIFY C INT NULL" [], .ok 0⟩] := by
  rfl

theorem counter_isBare : IsBareType .mySql counter.declared :=
  ⟨⟨by decide, by decide⟩, by decide⟩

end Nullability

open Nullability in
/-- On MySQL the column counts no more. -/
theorem setColumnNullable_changes_counter :
    let t := ((editor .mySql).setColumnNullable "T" "C" true false).transcript connection none ()
    sent false t.exchanges ≠ [] ∧ ∃ rule sql,
      (editor .mySql).SetsNullable "T" "C" true rule counter sql t.exchanges ∧
        ∃ a, ((editor .mySql).inspector.toldBuilder rule).Alters "T" "C" sql a ∧
          a.apply counter.attributes = ⟨"INT", true, none⟩ := by
  intro t
  have hsent : sent false t.exchanges ≠ [] := by
    unfold t
    rw [exchanges_eq]
    decide
  obtain ⟨rule, info, sql, hsets, hkeeps⟩ :=
    setColumnNullable_changes (editor .mySql) "T" "C" true false connection none () hsent
  -- Only one column was ever reported.
  obtain rfl : info = counter := by
    obtain ⟨columns, hmem, hfind⟩ := hsets.reported
    rw [exchanges_eq] at hmem
    generalize rule.apply "T" = tableName, rule.apply "C" = columnName at hmem
    rcases List.mem_cons.1 hmem with heq | hmem
    · cases heq
      exact (Option.some.inj hfind).symm
    · cases List.mem_singleton.1 hmem
  exact ⟨hsent, rule, sql, hsets, hkeeps fun _ => counter_isBare⟩

open Nullability in
/-- The default was reported, and the statement does not state it: the column loses it with NOT NULL. -/
theorem setColumnNullable_dropsDefault :
    let t := ((editor .mySql).setColumnNullable "T" "C" true false).transcript connection none ()
    let sql := "ALTER TABLE T MODIFY C INT NULL"
    t.exchanges = [⟨.getColumns (some "T") (some "C"), .ok [counter]⟩, ⟨.execute sql [], .ok 0⟩] ∧
      counter.default? = some "5" ∧ "DEFAULT" ∉ words .mySql sql ∧
      ∃ a, ((editor .mySql).inspector.toldBuilder .verbatim).Alters "T" "C" sql a ∧
        a.apply counter.attributes ≠ { counter.attributes with nullable := true } :=
  ⟨exchanges_eq, rfl, by decide, .definition ⟨"INT", true, none⟩,
    Builder.setNullable_definition rfl counter_isBare rfl, by decide⟩

end Editor

end SchemaChange
