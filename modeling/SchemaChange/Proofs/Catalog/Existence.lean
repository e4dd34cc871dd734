import Mathlib.Data.List.Find
import SchemaChange.Proofs.Catalog.Shown
import SchemaChange.Proofs.Text.Casing

/-!
# What is found under a name

A table or a column is looked for under the name that the database would store, but what comes back is
compared with the name as it was asked for. So it is found only if the two are the same name, ignoring
the case of ASCII letters: always if the name is of ASCII characters, and not if folding changes another
character.

* `Finds.tableExists`, `Finds.columnInfo?`: what is found;
* `Finds.tableExists_of_isAscii`, `Finds.columnExists_of_isAscii`: what is stored is found under names
  of ASCII characters;
* `Edit.perform_stored`: which tables and columns are made and dropped;
* `Inspector.stored_missed`: a table that is there and not found.
-/

namespace SchemaChange

namespace Catalog

/-- Whether a table, and not a view, passes for a stored name. -/
def hasTable (k : Catalog) (stored : String) : Bool :=
  k.tables.any fun t => t.kind == .table && k.passes (some stored) t.name

/-- The first column that passes for a stored name, in tables that pass for one. -/
def column? (k : Catalog) (table stored : String) : Option ColumnInfo :=
  k.columns.find? fun c => k.passes (some table) c.table && k.passes (some stored) c.name

/-- A name that passes a filter is the same name. -/
theorem sameName_of_passes {k : Catalog} {stored name : String}
    (h : k.passes (some stored) name = true) : Text.sameName name = Text.sameName stored := by
  funext asked
  refine Text.sameName_congr ?_ asked
  rw [passes, Option.all_some] at h
  split at h
  · rw [beq_iff_eq.1 h]
    exact Text.sameName_refl name
  · rwa [Text.sameName_comm]

theorem passes_self (k : Catalog) (name : String) : k.passes (some name) name = true := by
  rw [passes, Option.all_some]
  split
  · exact beq_self_eq_true name
  · exact Text.sameName_refl name

theorem hasTable_of_mem {k : Catalog} {stored : String} (h : ⟨stored, .table⟩ ∈ k.tables) :
    k.hasTable stored = true :=
  List.any_eq_true.2 ⟨_, h, by simp [k.passes_self stored]⟩

theorem column?_isSome_of_mem {k : Catalog} {info : ColumnInfo} (h : info ∈ k.columns) :
    (k.column? info.table info.name).isSome = true :=
  List.find?_isSome.2 ⟨info, h, by simp [k.passes_self]⟩

/-- Of the tables listed for a stored name, one is the name asked for if that is the stored name. -/
theorem any_tables (k : Catalog) (stored table : String) :
    ((k.tables.filter (k.passes (some stored) ·.name)).any fun t =>
      t.kind == .table && Text.sameName t.name table) =
        (k.hasTable stored && Text.sameName stored table) := by
  rw [hasTable, List.any_filter, List.and_any_distrib_right]
  -- What passes is the stored name, so all that is listed compares alike.
  refine List.any_congr rfl fun t => ?_
  cases h : k.passes (some stored) t.name with
  | false => simp
  | true => simp [sameName_of_passes h]

theorem find?_columns (k : Catalog) (table stored column : String) :
    ((k.columns.filter fun c => k.passes (some table) c.table && k.passes (some stored) c.name).find?
      (Text.sameName ·.name column)) =
        if Text.sameName stored column then k.column? table stored else none := by
  have hsame : ∀ c ∈ k.columns.filter fun c =>
      k.passes (some table) c.table && k.passes (some stored) c.name,
        Text.sameName c.name column = Text.sameName stored column := fun c hc => by
    rw [sameName_of_passes (Bool.and_eq_true_iff.1 (List.mem_filter.1 hc).2).2]
  rw [List.find?_congr hsame]
  cases Text.sameName stored column with
  | false => simp
  | true => simp [column?, List.find?_filter]

end Catalog

variable {σ : Type} {c : Connection σ} {catalog : σ → Catalog} {k : Catalog} {i : Inspector}

namespace Finds

variable (hshows : c.Shows catalog) (hhas : i.endpoint.hasCatalog = true)

include hshows hhas

/-- A table is found if it is stored under the folded name and that is still the name asked for. -/
theorem tableExists (table : String) :
    Finds c catalog k (i.tableExists table)
      (k.hasTable ((k.ruleFor i).apply table) &&
        Text.sameName ((k.ruleFor i).apply table) table) := by
  refine (fold hshows hhas table).bind ((inCatalog hshows hhas _ rfl rfl).bind ?_)
  rw [← Catalog.any_tables]
  exact .pure _

/-- A column is found if it is stored under the folded name and that is still the name asked for. -/
theorem columnInfo? (table column : String) :
    Finds c catalog k (i.columnInfo? table column)
      (if Text.sameName ((k.ruleFor i).apply column) column then
        k.column? ((k.ruleFor i).apply table) ((k.ruleFor i).apply column) else none) := by
  refine (caseRule hshows hhas).bind ((inCatalog hshows hhas _ rfl rfl).bind ?_)
  rw [← Catalog.find?_columns]
  exact .pure _

theorem columnExists (table column : String) :
    Finds c catalog k (i.columnExists table column)
      (Text.sameName ((k.ruleFor i).apply column) column &&
        (k.column? ((k.ruleFor i).apply table) ((k.ruleFor i).apply column)).isSome) := by
  refine (columnInfo? hshows hhas table column).bind ?_
  cases Text.sameName ((k.ruleFor i).apply column) column <;> exact .pure _

/-- A table is found under every name of ASCII characters that it is stored for. -/
theorem tableExists_of_isAscii {table : String} (hascii : Text.IsAscii table.toList)
    (hstored : ⟨(k.ruleFor i).apply table, .table⟩ ∈ k.tables) :
    Finds c catalog k (i.tableExists table) true := by
  have hfinds := tableExists (k := k) hshows hhas table
  rwa [Catalog.hasTable_of_mem hstored, CaseRule.sameName_apply _ hascii] at hfinds

theorem columnExists_of_isAscii {table column : String} {info : ColumnInfo}
    (hascii : Text.IsAscii column.toList) (hstored : info ∈ k.columns)
    (htable : info.table = (k.ruleFor i).apply table)
    (hcolumn : info.name = (k.ruleFor i).apply column) :
    Finds c catalog k (i.columnExists table column) true := by
  have hfinds := columnExists (k := k) hshows hhas table column
  rwa [CaseRule.sameName_apply _ hascii, ← htable, ← hcolumn, Catalog.column?_isSome_of_mem hstored]
    at hfinds

end Finds

/-! ## Changes of what is stored -/

namespace Settles

variable {e : Editor} {copies found ignoring : Bool} {table column sql : String}
  (hshows : c.Shows catalog) (hhas : e.inspector.endpoint.hasCatalog = true)

include hshows hhas

/-- A statement is made, what it is about is looked up, and it is skipped or sent by what was found. -/
theorem buildUnless {make : Builder → Except BuildError String} {find : Operation Bool}
    (hmade : make (k.builderFor e.inspector) = .ok sql) (hfound : Finds c catalog k find found)
    (f : Bool → Bool) :
    Settles c catalog k copies
      (e.build make >>= fun sql => find >>= fun found => Editor.runUnless (f found) sql ignoring)
      (Skips ignoring (f found) [sql]) :=
  .build hshows hhas hmade (.after hfound (.runUnless (f found) sql))

theorem createTable {spec : TableSpec}
    (hmade : (k.builderFor e.inspector).createTable spec = .ok sql)
    (hfound : Finds c catalog k (e.inspector.tableExists spec.name) found) :
    Settles c catalog k copies (e.createTable spec ignoring) (Skips ignoring found [sql]) :=
  .buildUnless hshows hhas hmade hfound id

theorem dropTable (hmade : (k.builderFor e.inspector).dropTable table = .ok sql)
    (hfound : Finds c catalog k (e.inspector.tableExists table) found) :
    Settles c catalog k copies (e.dropTable table ignoring) (Skips ignoring (!found) [sql]) :=
  .buildUnless hshows hhas hmade hfound not

theorem addColumn {spec : ColumnSpec} {batch : Batch}
    (hmade : (k.builderFor e.inspector).addColumn table spec = .ok batch)
    (hfound : Finds c catalog k (e.inspector.columnExists table spec.name) found) :
    Settles c catalog k copies (e.addColumn table spec ignoring)
      (Skips ignoring found batch.statements) := by
  refine .build hshows hhas hmade (.after hfound ?_)
  cases found with
  | true => exact .skip batch.statements
  | false => exact .runAll batch.statements

theorem dropColumn (hmade : (k.builderFor e.inspector).dropColumn table column = .ok sql)
    (hfound : Finds c catalog k (e.inspector.columnExists table column) found) :
    Settles c catalog k copies (e.dropColumn table column ignoring)
      (Skips ignoring (!found) [sql]) :=
  .buildUnless hshows hhas hmade hfound not

end Settles

/-- What is found under a name, and what a change does about it: creating and adding are skipped if it
    is found, and dropping if it is not. -/
theorem Edit.perform_stored (e : Editor) (ignoring : Bool) (c : Connection σ)
    (catalog : σ → Catalog) (learned : Option CaseRule) (s : σ) (hshows : c.Shows catalog)
    (hhas : e.inspector.endpoint.hasCatalog = true) (hknows : (catalog s).Knows learned)
    (table column : String) :
    let rule := (catalog s).ruleFor e.inspector
    let builder := (catalog s).builderFor e.inspector
    let foundTable := (catalog s).hasTable (rule.apply table) &&
      Text.sameName (rule.apply table) table
    let foundColumn? := if Text.sameName (rule.apply column) column then
      (catalog s).column? (rule.apply table) (rule.apply column) else none
    ((e.inspector.tableExists table).transcript c learned s).result.1 = .ok foundTable ∧
      ((e.inspector.columnInfo? table column).transcript c learned s).result.1 = .ok foundColumn? ∧
      (∀ spec sql, spec.name = table → builder.createTable spec = .ok sql →
        let t := ((createTable spec).perform e ignoring).transcript c learned s
        Skips ignoring foundTable [sql] (sent false t.exchanges) t.result.1) ∧
      (∀ sql, builder.dropTable table = .ok sql →
        let t := ((dropTable table).perform e ignoring).transcript c learned s
        Skips ignoring (!foundTable) [sql] (sent false t.exchanges) t.result.1) ∧
      (∀ spec batch, spec.name = column → builder.addColumn table spec = .ok batch →
        let t := ((addColumn table spec).perform e ignoring).transcript c learned s
        Skips ignoring foundColumn?.isSome batch.statements (sent false t.exchanges) t.result.1) ∧
      ∀ sql, builder.dropColumn table column = .ok sql →
        let t := ((dropColumn table column).perform e ignoring).transcript c learned s
        Skips ignoring (!foundColumn?.isSome) [sql] (sent false t.exchanges) t.result.1 := by
  intro rule builder foundTable foundColumn?
  have htable : Finds c catalog (catalog s) (e.inspector.tableExists table) foundTable :=
    .tableExists hshows hhas table
  have hinfo : Finds c catalog (catalog s) (e.inspector.columnInfo? table column) foundColumn? :=
    .columnInfo? hshows hhas table column
  have hcolumn : Finds c catalog (catalog s) (e.inspector.columnExists table column)
      foundColumn?.isSome := hinfo.bind (.pure _)
  refine ⟨htable.transcript hknows, hinfo.transcript hknows, ?_, ?_, ?_, ?_⟩
  · rintro spec sql rfl hmade
    exact ((Settles.createTable hshows hhas hmade htable).transcript hknows rfl).1
  · intro sql hmade
    exact ((Settles.dropTable hshows hhas hmade htable).transcript hknows rfl).1
  · rintro spec batch rfl hmade
    exact ((Settles.addColumn hshows hhas hmade hcolumn).transcript hknows rfl).1
  · intro sql hmade
    exact ((Settles.dropColumn hshows hhas hmade hcolumn).transcript hknows rfl).1

/-! ## A table with an accent -/

namespace Catalog

/-- A table and its column, as a database that folds to capitals stores `é` and `è`. -/
def accented : Catalog where
  rule := .upper
  exact := true
  tables := [⟨"É", .table⟩]
  columns := [⟨"É", "È", 1, "INTEGER", .integer, true, none, none⟩]

/-- An editor that learns from the catalog that names are stored in capitals. -/
def accentedEditor : Editor where
  inspector := ⟨⟨"driver", "product", true⟩, .generic, {}⟩
  config := { driver := "driver", url := "url" }

end Catalog

open Catalog in
/-- The table and the column are there and are not found, so they are to be made once more. -/
theorem Edit.perform_stored_accented :
    let spec : TableSpec := { name := "é", columns := [{ name := "è", type := .integer }] }
    let t := ((createTable spec).perform accentedEditor false).transcript connection none accented
    Skips false false ["CREATE TABLE é (è INTEGER)"] (sent false t.exchanges) t.result.1 := by
  have hfound : (accented.hasTable (CaseRule.upper.apply "é") &&
      Text.sameName (CaseRule.upper.apply "é") "é") = false := rfl
  rw [← hfound]
  exact (perform_stored accentedEditor false connection id none accented Catalog.connection_shows rfl
    (knows_none _) "é" "è").2.2.1 _ _ rfl rfl

open Catalog in
/-- Neither is found though both are stored under the folded names: the table is made once more, and it
    is not dropped. -/
theorem Inspector.stored_missed :
    let rule := accented.ruleFor accentedEditor.inspector
    let made := ((Edit.createTable { name := "é", columns := [{ name := "è", type := .integer }] }).perform
      accentedEditor false).transcript connection none accented
    let dropped := ((Edit.dropTable "é").perform accentedEditor false).transcript connection none
      accented
    (⟨rule.apply "é", .table⟩ ∈ accented.tables ∧
        ((accentedEditor.inspector.tableExists "é").transcript connection none accented).result.1 =
          .ok false) ∧
      ((∃ info ∈ accented.columns, info.table = rule.apply "é" ∧ info.name = rule.apply "è") ∧
        ((accentedEditor.inspector.columnInfo? "é" "è").transcript connection none
          accented).result.1 = .ok none) ∧
      (sent false made.exchanges).map Exchange.request =
        [.execute "CREATE TABLE é (è INTEGER)" []] ∧
      dropped.result.1 = .ok .skipped := by
  intro rule made dropped
  have htable : rule.apply "é" = "É" := rfl
  have hcolumn : rule.apply "è" = "È" := rfl
  rw [htable, hcolumn]
  exact ⟨⟨List.mem_singleton_self _, rfl⟩, ⟨⟨_, List.mem_singleton_self _, rfl, rfl⟩, rfl⟩,
    rfl, rfl⟩

end SchemaChange
