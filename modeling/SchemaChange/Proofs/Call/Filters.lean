import SchemaChange.Proofs.Build.Naming
import SchemaChange.Proofs.Call.Session

/-!
# Filters and written names

The inspector filters the catalog by names as the database stores them. A question has one look-up, and this
filters by the names that the question is about, each of them folded by itself. A builder that quotes folds
the parts of a name by the same rule, so for a name without a schema the text between its quotes is the
filter.

* `Question.answer_filters`: the filters of a question;
* `Builder.ident_reads_back`: names as a builder writes them, and as the catalog is asked for them.
-/

namespace SchemaChange

/-- The names that a look-up filters by. -/
def Request.filters : Request → List String
  | .listTables table? | .getPrimaryKeys table? | .getImportedKeys table? | .getIndexes table? =>
    table?.toList
  | .getColumns table? column? => table?.toList ++ column?.toList
  | .getCrossReference parent? foreign? => parent?.toList ++ foreign?.toList
  | .connect _ | .execute .. | .query .. | .currentCatalog | .identifierCase | .close => []

/-- The names that a question looks up in the catalog, as they are asked for. -/
def Question.subjects : Question → List String
  | caseRule | builder | hasConstraint .. | tableHasData _ => []
  | columns table? => table?.toList
  | tableExists table | columnsExist table _ | primaryKeyColumns table | hasPrimaryKey table _
  | importedForeignKeys table | hasForeignKeyNamed table _ | indexExists table _ => [table]
  | columnInfo table column | columnExists table column | columnSqlType table column
  | isColumnNullable table column | columnValueKind table column => [table, column]
  | hasForeignKey table referencedTable _ _ => [referencedTable, table]

/-- Whatever the operation looks up of the schema, it filters by the given names. -/
def Operation.FiltersBy {α : Type} (names : List String) (o : Operation α) : Prop :=
  o.Asks fun q => q.readsSchema = true → q.filters = names

theorem Operation.Asks.built {α : Type} {P : Request → Prop} (made : Except BuildError α) :
    (Operation.built made).Asks P := by
  cases made with
  | error e => exact .fail _
  | ok a => exact .pure a

namespace Inspector

variable {i : Inspector} {rule : CaseRule} (hset : i.options.case? = some rule)

/-! ## With the case rule set -/

include hset

/-- A rule that the options state is taken without a question. -/
theorem caseRule_of_set : i.caseRule = pure rule := by
  rw [caseRule, hset]

theorem fold_of_set (name : String) : i.fold name = pure (rule.apply name) := by
  rw [fold, caseRule_of_set hset, pure_bind]

theorem builder_of_set :
    i.builder = pure ⟨i.dialect, { i.options with case? := some rule }⟩ := by
  rw [builder, caseRule_of_set hset, pure_bind]

/-- A table is asked for under its folded name. -/
theorem tableExists_filters (table : String) :
    (i.tableExists table).FiltersBy [rule.apply table] := by
  rw [tableExists, fold_of_set hset, pure_bind]
  exact .bind (inCatalog_asks fun _ => rfl) fun _ => .pure _

theorem columns_filters (table? : Option String) :
    (i.columns table?).FiltersBy (table?.map rule.apply).toList := by
  cases table? with
  | none =>
    rw [columns, pure_bind]
    exact inCatalog_asks fun _ => rfl
  | some table =>
    rw [columns, fold_of_set hset, map_pure, pure_bind]
    exact inCatalog_asks fun _ => rfl

/-- A column is asked for under its folded name and that of its table. -/
theorem columnInfo?_filters (table column : String) :
    (i.columnInfo? table column).FiltersBy [rule.apply table, rule.apply column] := by
  rw [columnInfo?, caseRule_of_set hset, pure_bind]
  exact .bind (inCatalog_asks fun _ => rfl) fun _ => .pure _

theorem requireColumn_filters (table column : String) :
    (i.requireColumn table column).FiltersBy [rule.apply table, rule.apply column] := by
  refine .bind (columnInfo?_filters hset table column) fun info? => ?_
  cases info? with
  | none => exact .fail _
  | some info => exact .pure info

theorem columnSqlType_filters (table column : String) :
    (i.columnSqlType table column).FiltersBy [rule.apply table, rule.apply column] :=
  .bind (requireColumn_filters hset table column) fun _ => .pure _

theorem primaryKeyColumns_filters (table : String) :
    (i.primaryKeyColumns table).FiltersBy [rule.apply table] := by
  rw [primaryKeyColumns, fold_of_set hset, pure_bind]
  exact .bind (inCatalog_asks fun _ => rfl) fun _ => .pure _

theorem importedForeignKeys_filters (table : String) :
    (i.importedForeignKeys table).FiltersBy [rule.apply table] := by
  rw [importedForeignKeys, fold_of_set hset, pure_bind]
  exact inCatalog_asks fun _ => rfl

/-- Foreign keys are asked for by the folded names of both tables. -/
theorem hasForeignKey_filters (table referencedTable : String) (columns references : List String) :
    (i.hasForeignKey table referencedTable columns references).FiltersBy
      [rule.apply referencedTable, rule.apply table] := by
  unfold hasForeignKey
  by_cases hlength : columns.length ≠ references.length
  · rw [if_pos hlength]
    exact .fail (.build (.referenceCountMismatch _ _ _))
  rw [if_neg hlength]
  by_cases hempty : columns.isEmpty
  · rw [if_pos hempty]
    exact .fail (.build (.emptyColumnList _))
  · rw [if_neg hempty, caseRule_of_set hset, pure_bind]
    exact .bind (inCatalog_asks fun _ => rfl) fun _ => .pure _

theorem indexExists_filters (table name : String) :
    (i.indexExists table name).FiltersBy [rule.apply table] := by
  rw [indexExists, fold_of_set hset, pure_bind]
  exact .bind (inCatalog_asks fun _ => rfl) fun _ => .pure _

/-- The names of constraints are not looked up in the schema. -/
theorem hasConstraint_filters (table name : String) (names : List String) :
    (i.hasConstraint table name).FiltersBy names := by
  rw [hasConstraint, builder_of_set hset, pure_bind]
  refine .bind (Operation.lookUp_asks nofun) fun catalog? => .bind (.built _) fun statement => ?_
  exact .bind (Operation.lookUp_asks nofun) fun _ => .pure _

/-- Nor are the rows of a table. -/
theorem tableHasData_filters (table : String) (names : List String) :
    (i.tableHasData table).FiltersBy names := by
  rw [tableHasData, builder_of_set hset, pure_bind]
  refine .bind (.built _) fun sql => .bind (Operation.lookUp_asks nofun) fun result => ?_
  cases result.scalar?.bind rowCount? with
  | none => exact .fail _
  | some count => exact .pure _

end Inspector

/-- A question filters by the names that it is about, each of them folded. -/
theorem Question.answer_filters_of_set {i : Inspector} {rule : CaseRule}
    (hset : i.options.case? = some rule) (q : Question) :
    (q.answer i).FiltersBy (q.subjects.map rule.apply) := by
  cases q with
  | caseRule =>
    rw [answer, Inspector.caseRule_of_set hset]
    exact .pure _
  | builder =>
    rw [answer, Inspector.builder_of_set hset]
    exact .pure _
  | tableExists table => exact Inspector.tableExists_filters hset table
  | columns table? =>
    rw [subjects, ← Option.toList_map]
    exact Inspector.columns_filters hset table?
  | columnInfo table column => exact Inspector.columnInfo?_filters hset table column
  | columnExists table column =>
    exact .bind (Inspector.columnInfo?_filters hset table column) fun _ => .pure _
  | columnsExist table names =>
    exact .bind (Inspector.columns_filters hset (some table)) fun _ => .pure _
  | columnSqlType table column => exact Inspector.columnSqlType_filters hset table column
  | isColumnNullable table column =>
    exact .bind (Inspector.requireColumn_filters hset table column) fun _ => .pure _
  | columnValueKind table column =>
    exact .bind (Inspector.columnSqlType_filters hset table column) fun _ => .pure _
  | primaryKeyColumns table => exact Inspector.primaryKeyColumns_filters hset table
  | hasPrimaryKey table column? =>
    exact .bind (Inspector.primaryKeyColumns_filters hset table) fun _ => .pure _
  | importedForeignKeys table => exact Inspector.importedForeignKeys_filters hset table
  | hasForeignKeyNamed table name =>
    exact .bind (Inspector.importedForeignKeys_filters hset table) fun _ => .pure _
  | hasForeignKey table referencedTable columns references =>
    exact Inspector.hasForeignKey_filters hset table referencedTable columns references
  | hasConstraint table name => exact Inspector.hasConstraint_filters hset table name _
  | indexExists table name => exact Inspector.indexExists_filters hset table name
  | tableHasData table => exact Inspector.tableHasData_filters hset table _

variable {i : Inspector} {rule : CaseRule} {l l' : Option CaseRule} {xs : List Exchange}

/-- It makes no difference whether the rule is set or has been learned. -/
theorem Question.answer_filters (hknown : i.options.case?.or l = some rule) (q : Question)
    {r : Except Failure q.Answer} (hc : (q.answer i).Course l xs r l') :
    ∀ x ∈ xs, x.request.readsSchema = true → x.request.filters = q.subjects.map rule.apply := by
  have hfollows : Follows l (q.answer i) (q.answer (i.under ⟨i.endpoint.hasCatalog, some rule⟩)) :=
    (q.answer_inquiry i).follows hknown rfl
  exact q.answer_filters_of_set rfl (hfollows hc).2

/-- What the inspector has told as its rule, it goes by from then on. -/
theorem Inspector.known_of_caseRule (hc : i.caseRule.Course l xs (.ok rule) l') :
    i.options.case?.or l' = some rule := by
  have hc := course_caseRule_iff.1 hc
  split at hc
  · rename_i rule' hknown
    obtain ⟨-, hrule, rfl⟩ := hc
    rw [hknown, Except.ok.inj hrule]
  · rename_i hunknown
    rw [(Option.or_eq_none_iff.1 hunknown).1, hc.2]
    rfl

theorem Inspector.known_of_builder {b : Builder} (hc : i.builder.Course l xs (.ok b) l') :
    i.options.case?.or l' = some b.caseRule := by
  obtain ⟨rule, l₁, ys, zs, hrule, hpure, -⟩ := Operation.course_bind_ok hc
  obtain ⟨-, hb, rfl⟩ := Operation.course_pure_iff.1 hpure
  cases hb
  exact known_of_caseRule hrule

/-! ## Names that are quoted -/

/-- What is promised of the names that a builder quotes. -/
structure Builder.QuotesNames (b : Builder) : Prop where
  /-- The folded parts of a name are read back. -/
  readBack : ∀ name written, b.ident name = .ok written →
    b.dialect.readName? written = some ((nameParts name).map b.caseRule.apply)
  /-- Two names are written alike if their folded parts are the same. -/
  alike : ∀ name written name' written', b.ident name = .ok written → b.ident name' = .ok written' →
    (written = written' ↔
      (nameParts name).map b.caseRule.apply = (nameParts name').map b.caseRule.apply)
  /-- If the builder is that of an inspector, what is read back of a name without a schema is the filter
      that the inspector asks the catalog by. -/
  filters : ∀ (i : Inspector) ⦃l xs l'⦄, i.builder.Course l xs (.ok b) l' →
    ∀ (q : Question) ⦃ys r l''⦄, (q.answer i).Course l' ys r l'' →
      ∀ y ∈ ys, y.request.readsSchema = true →
        List.Forall₂ (fun name filter => ∀ written, b.ident name = .ok written → '.' ∉ name.toList →
          b.dialect.readName? written = some [filter]) q.subjects y.request.filters

/-- Names read back: of a quoted name its folded parts, and the filters of the inspector with them; a
    bare name is the name as it is, and all its parts are plain words. -/
theorem Builder.ident_reads_back (b : Builder) :
    (b.options.quoted = true → b.QuotesNames) ∧
      (b.options.quoted = false → ∀ name written, b.ident name = .ok written ↔
        (∀ part ∈ nameParts name, isBareName part.toList = true) ∧ written = name) := by
  refine ⟨fun hquoted => ?_, fun hbare name written => ident_of_bare hbare⟩
  refine ⟨fun name written => readName?_ident hquoted,
    fun name written name' written' => ident_eq_iff_of_quoted hquoted, ?_⟩
  intro i l xs l' hbuilder q ys r l'' hc y hy hreads
  rw [q.answer_filters (Inspector.known_of_builder hbuilder) hc y hy hreads, List.forall₂_map_right_iff,
    List.forall₂_same]
  intro name _ written hname hpoint
  rw [readName?_ident hquoted hname, nameParts, List.splitOn_eq_singleton hpoint, List.map_singleton,
    List.map_singleton, String.ofList_toList]

/-- An inspector that quotes, and learns that names are stored in capitals. -/
def quotingInspector : Inspector where
  endpoint := ⟨"driver", "product", true⟩
  dialect := .postgres
  options := { quoted := true }

/-- A table whose name holds a quote: it is quoted in a statement, read back, and looked up as it is read
    back. -/
theorem Builder.ident_reads_back_quote :
    let b : Builder := ⟨.postgres, { quoted := true, case? := some .upper }⟩
    let asked : Exchange := ⟨.listTables (some "A\"B"), .ok []⟩
    quotingInspector.builder.Course none [⟨.identifierCase, .ok .upper⟩] (.ok b) (some .upper) ∧
      ((Question.tableExists "a\"b").answer quotingInspector).Course (some .upper) [asked] (.ok false)
        (some .upper) ∧
      b.ident "a\"b" = .ok "\"A\"\"B\"" ∧
      b.dialect.readName? "\"A\"\"B\"" = some ["A\"B"] := by
  intro b asked
  have hbuilder : quotingInspector.builder.Course none [⟨.identifierCase, .ok .upper⟩] (.ok b)
      (some .upper) := .ask (.done _)
  have hfolded : CaseRule.upper.apply "a\"b" = "A\"B" := by rfl
  have hasked : ((Question.tableExists "a\"b").answer quotingInspector).Course (some .upper) [asked]
      (.ok false) (some .upper) := by
    unfold asked
    rw [← hfolded]
    exact .ask (.done _)
  have hname : b.ident "a\"b" = .ok "\"A\"\"B\"" := by rfl
  have hfilters := (b.ident_reads_back.1 rfl).filters _ hbuilder _ hasked asked List.mem_cons_self rfl
  exact ⟨hbuilder, hasked, hname, (List.forall₂_cons.1 hfilters).1 _ hname (by decide)⟩

end SchemaChange
