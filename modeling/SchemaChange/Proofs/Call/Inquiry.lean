import SchemaChange.Editor.Call
import SchemaChange.Proofs.Course.Lookup

/-!
# Inquiries

A question is answered by look-ups alone. `Inquiry` says so of an operation in every setting of its
inspector, with a catalog or without one, with a case rule in its options or without one: how it goes in
one setting and how in another can then be read off from how it is made.

* `Question.answer_inquiry`: every question is an inquiry.
-/

namespace SchemaChange

/-- The inspector of a connection that exposes a catalog, or of one that does not. -/
def Inspector.withCatalog (i : Inspector) (has : Bool) : Inspector :=
  { i with endpoint := { i.endpoint with hasCatalog := has } }

/-- The editor of a connection that exposes a catalog, or of one that does not. -/
def Editor.withCatalog (e : Editor) (has : Bool) : Editor :=
  { e with inspector := e.inspector.withCatalog has }

namespace Inspector

/-- What may be set of an inspector: whether there is a catalog, and the case rule of its options. -/
structure Setting where
  hasCatalog : Bool
  case? : Option CaseRule

variable (i : Inspector)

/-- The setting of an inspector. -/
def setting : Setting :=
  ⟨i.endpoint.hasCatalog, i.options.case?⟩

/-- The inspector in another setting. -/
def under (w : Setting) : Inspector :=
  { i with
    endpoint := { i.endpoint with hasCatalog := w.hasCatalog }
    options := { i.options with case? := w.case? } }

end Inspector

/-- The editor with its inspector in another setting. -/
def Editor.under (e : Editor) (w : Inspector.Setting) : Editor :=
  { e with inspector := e.inspector.under w }

/-! ## Inquiries -/

/-- Whether a request looks at what the schema holds. -/
def Request.readsSchema : Request → Bool
  | .currentCatalog | .identifierCase => false
  | r => r.isLookup

/-- Whether the request is malformed or what it is about is not there. -/
def Failure.isRefusal (f : Failure) : Bool :=
  f.isBuild || f.isMetadata

/-- A refusal is no rejection of a statement. -/
theorem Failure.isExecution_of_isRefusal {f : Failure} (h : f.isRefusal = true) :
    f.isExecution = false := by
  cases f with
  | build e => rfl
  | database e => cases e <;> first | rfl | cases h

/-- An operation that consists of look-ups in every setting of its inspector. -/
inductive Inquiry (i : Inspector) : {α : Type} → (Inspector.Setting → Operation α) → Prop
  | pure {α : Type} (a : α) : Inquiry i fun _ => pure a
  | fail {α : Type} (f : Failure) : f.isRefusal = true →
      Inquiry i (fun _ => throw f : Inspector.Setting → Operation α)
  | bind {α β : Type} {o : Inspector.Setting → Operation α} {f : α → Inspector.Setting → Operation β} :
      Inquiry i o → (∀ a, Inquiry i (f a)) → Inquiry i fun w => o w >>= fun a => f a w
  | lookUp (context : String) (r : Request) : r.introspects = false → r.looksUp false = true →
      Inquiry i fun _ => Operation.lookUp context r
  | inCatalog (context : String) (r : Request) : r.readsSchema = true →
      Inquiry i fun w => (i.under w).inCatalog context r
  | caseRule : Inquiry i fun w => (i.under w).caseRule

/-- What asks the catalog is a look-up, whether rows are copied or not. -/
theorem Request.looksUp_of_introspects {copies : Bool} {r : Request} (h : r.introspects = true) :
    r.looksUp copies = true := by
  cases r <;> first | rfl | cases h

/-- What looks at the schema asks the catalog. -/
theorem Request.introspects_of_readsSchema {r : Request} (h : r.readsSchema = true) :
    r.introspects = true := by
  cases r <;> first | rfl | cases h

/-- An inquiry sends no statement. -/
theorem Inquiry.asks {i : Inspector} {α : Type} {o : Inspector.Setting → Operation α} (h : Inquiry i o)
    (w : Inspector.Setting) : (o w).Asks fun r => r.looksUp false = true := by
  induction h with
  | pure a => exact .pure a
  | fail f _ => exact .fail f
  | bind _ _ ho hf => exact ho.bind hf
  | lookUp context q _ hq => exact Operation.lookUp_asks hq
  | inCatalog context q hq =>
    exact Inspector.inCatalog_asks
      (Request.looksUp_of_introspects (Request.introspects_of_readsSchema hq))
  | caseRule => exact Inspector.caseRule_asks rfl

namespace Inquiry

variable (i : Inspector)

/-- To build something is an inquiry: it asks nothing, and fails by a refusal. -/
theorem built {α : Type} (b : Except BuildError α) : Inquiry i fun _ => Operation.built b := by
  cases b with
  | ok a => exact .pure a
  | error e => exact .fail _ rfl

/-- So is to report that something is not there. -/
theorem missing {α : Type} (reason : String) :
    Inquiry i (fun _ => Inspector.missing reason : Inspector.Setting → Operation α) :=
  .fail _ rfl

/-- Making a builder resolves the case rule, and asks nothing else. -/
theorem builder : Inquiry i fun w => (i.under w).builder :=
  .bind (.caseRule) fun rule =>
    .pure (⟨i.dialect, { i.options with case? := some rule }⟩ : Builder)

/-- Folding a name resolves the case rule. -/
theorem fold (name : String) : Inquiry i fun w => (i.under w).fold name :=
  .bind (.caseRule) fun _ => .pure _

/-- A table is looked for under its folded name. -/
theorem tableExists (table : String) : Inquiry i fun w => (i.under w).tableExists table :=
  .bind (fold i table) fun _ => .bind (.inCatalog _ _ rfl) fun _ => .pure _

/-- Columns are listed under the folded name of their table, or for all tables. -/
theorem columns (table? : Option String) :
    Inquiry i fun w => (i.under w).columns table? := by
  cases table? with
  | none => exact .bind (.pure _) fun _ => .inCatalog _ _ rfl
  | some table =>
    exact .bind (.bind (fold i table) fun _ => .pure _) fun _ => .inCatalog _ _ rfl

theorem columnInfo? (table column : String) :
    Inquiry i fun w => (i.under w).columnInfo? table column :=
  .bind (.caseRule) fun _ => .bind (.inCatalog _ _ rfl) fun _ => .pure _

/-- Whether there is a column is read off its description. -/
theorem columnExists (table column : String) :
    Inquiry i fun w => (i.under w).columnExists table column :=
  .bind (columnInfo? i table column) fun _ => .pure _

/-- All columns of a table are asked for at once. -/
theorem columnsExist (table : String) (names : List String) :
    Inquiry i fun w => (i.under w).columnsExist table names :=
  .bind (columns i table) fun _ => .pure _

/-- A column that is not there is a refusal, after the look-up that misses it. -/
theorem requireColumn (table column : String) :
    Inquiry i fun w => (i.under w).requireColumn table column :=
  .bind (columnInfo? i table column) fun info? => by
    cases info? with
    | none => exact missing i _
    | some info => exact .pure info

theorem columnSqlType (table column : String) :
    Inquiry i fun w => (i.under w).columnSqlType table column :=
  .bind (requireColumn i table column) fun _ => .pure _

theorem isColumnNullable (table column : String) :
    Inquiry i fun w => (i.under w).isColumnNullable table column :=
  .bind (requireColumn i table column) fun _ => .pure _

theorem columnValueKind (table column : String) :
    Inquiry i fun w => (i.under w).columnValueKind table column :=
  .bind (columnSqlType i table column) fun _ => .pure _

theorem primaryKeyColumns (table : String) :
    Inquiry i fun w => (i.under w).primaryKeyColumns table :=
  .bind (fold i table) fun _ => .bind (.inCatalog _ _ rfl) fun _ => .pure _

theorem hasPrimaryKey (table : String) (column? : Option String) :
    Inquiry i fun w => (i.under w).hasPrimaryKey table column? :=
  .bind (primaryKeyColumns i table) fun _ => .pure _

theorem importedForeignKeys (table : String) :
    Inquiry i fun w => (i.under w).importedForeignKeys table :=
  .bind (fold i table) fun _ => .inCatalog _ _ rfl

theorem hasForeignKeyNamed (table name : String) :
    Inquiry i fun w => (i.under w).hasForeignKeyNamed table name :=
  .bind (importedForeignKeys i table) fun _ => .pure _

/-- A foreign key is looked for in the rows between two tables, unless the question is malformed. -/
theorem hasForeignKey (table referencedTable : String) (names references : List String) :
    Inquiry i fun w => (i.under w).hasForeignKey table referencedTable names references := by
  unfold Inspector.hasForeignKey
  by_cases hlen : names.length ≠ references.length
  · simp only [if_pos hlen]
    exact .fail _ rfl
  by_cases hempty : names.isEmpty
  · simp only [if_neg hlen, if_pos hempty]
    exact .fail _ rfl
  · simp only [if_neg hlen, if_neg hempty]
    exact .bind (.caseRule) fun _ => .bind (.inCatalog _ _ rfl) fun _ => .pure _

theorem hasConstraint (table name : String) :
    Inquiry i fun w => (i.under w).hasConstraint table name :=
  .bind (builder i) fun _ => .bind (.lookUp _ _ rfl rfl) fun _ => .bind (built i _) fun _ =>
    .bind (.lookUp _ _ rfl rfl) fun _ => .pure _

theorem indexExists (table name : String) :
    Inquiry i fun w => (i.under w).indexExists table name :=
  .bind (fold i table) fun _ => .bind (.inCatalog _ _ rfl) fun _ => .pure _

/-- Rows are counted by a query, which is a look-up. -/
theorem tableHasData (table : String) :
    Inquiry i fun w => (i.under w).tableHasData table :=
  .bind (builder i) fun _ => .bind (built i _) fun _ => .bind (.lookUp _ _ rfl rfl) fun result => by
    cases result.scalar?.bind Inspector.rowCount? with
    | none => exact missing i _
    | some count => exact .pure _

end Inquiry

/-- Every question is an inquiry. -/
theorem Question.answer_inquiry (i : Inspector) (q : Question) :
    Inquiry i fun w => q.answer (i.under w) := by
  cases q with
  | caseRule => exact .caseRule
  | builder => exact .builder i
  | tableExists table => exact .tableExists i table
  | columns table? => exact .columns i table?
  | columnInfo table column => exact .columnInfo? i table column
  | columnExists table column => exact .columnExists i table column
  | columnsExist table names => exact .columnsExist i table names
  | columnSqlType table column => exact .columnSqlType i table column
  | isColumnNullable table column => exact .isColumnNullable i table column
  | columnValueKind table column => exact .columnValueKind i table column
  | primaryKeyColumns table => exact .primaryKeyColumns i table
  | hasPrimaryKey table column? => exact .hasPrimaryKey i table column?
  | importedForeignKeys table => exact .importedForeignKeys i table
  | hasForeignKeyNamed table name => exact .hasForeignKeyNamed i table name
  | hasForeignKey table referencedTable names references =>
    exact .hasForeignKey i table referencedTable names references
  | hasConstraint table name => exact .hasConstraint i table name
  | indexExists table name => exact .indexExists i table name
  | tableHasData table => exact .tableHasData i table

end SchemaChange
