import SchemaChange.Build.Tables
import SchemaChange.Proofs.Build.Checked
import SchemaChange.Proofs.Catalog.Existence
import SchemaChange.Proofs.Text.Casing
import SchemaChange.Proofs.Text.Lines

/-!
# Names with a schema

In a statement a name is taken apart at its points, and its last part is the name of the table, folded
and quoted by itself. The catalog is asked for the name as a whole, points included. As folding keeps the
points, what it finds has a point in its own name, and is never the table that the statement is about: a
table that is listed under the last part is made once more, and it is not dropped.

* `Builder.ident_qualified`: the name of the table in a statement;
* `Edit.perform_qualified`: what is made and dropped under a name with a schema;
* `Inspector.qualified_missed`: a table that is listed under the last part of its name, and not found.
-/

namespace SchemaChange

/-! ## Points -/

namespace Text

theorem point_mem_asciiLower_iff {s : List Char} : '.' ∈ asciiLower s ↔ '.' ∈ s := by
  constructor
  · intro h
    obtain ⟨c, hc, hlower⟩ := List.mem_map.1 h
    exact (toLower_eq_iff (by decide) c).1 hlower ▸ hc
  · exact fun h => List.mem_map.2 ⟨'.', h, rfl⟩

end Text

namespace Catalog

variable {k : Catalog} {stored table name : String}

/-- What passes for a name with a point has one itself. -/
theorem point_mem_of_passes (hpoint : '.' ∈ stored.toList)
    (h : k.passes (some stored) name = true) : '.' ∈ name.toList := by
  have hsame : Text.sameName name stored = true := by
    rw [sameName_of_passes h]
    exact Text.sameName_refl stored
  rwa [← Text.point_mem_asciiLower_iff, Text.sameName_iff.1 hsame, Text.point_mem_asciiLower_iff]

theorem hasTable_of_points (hpoint : '.' ∈ stored.toList)
    (hplain : ∀ t ∈ k.tables, '.' ∉ t.name.toList) : k.hasTable stored = false := by
  refine List.any_eq_false.2 fun t ht hfound => hplain t ht ?_
  exact point_mem_of_passes hpoint (Bool.and_eq_true_iff.1 hfound).2

theorem column?_of_points (hpoint : '.' ∈ table.toList)
    (hplain : ∀ x ∈ k.columns, '.' ∉ x.table.toList) : k.column? table stored = none := by
  refine List.find?_eq_none.2 fun x hx hfound => hplain x hx ?_
  exact point_mem_of_passes hpoint (Bool.and_eq_true_iff.1 hfound).1

end Catalog

/-! ## In a statement -/

section Lists

variable {α β : Type}

theorem intercalate_concat {sep : List α} {xs : List (List α)} (h : xs ≠ []) (y : List α) :
    sep.intercalate (xs ++ [y]) = sep.intercalate xs ++ sep ++ y := by
  induction xs with
  | nil => exact absurd rfl h
  | cons x xs ih =>
    cases xs with
    | nil => simp [List.intercalate]
    | cons x' xs => simpa [List.intercalate] using ih (List.cons_ne_nil _ _)

theorem ne_nil_of_mapM {f : α → Option β} {as : List α} {bs : List β} (hne : as ≠ [])
    (h : as.mapM f = some bs) : bs ≠ [] := by
  obtain ⟨a, as, rfl⟩ := List.exists_cons_of_ne_nil hne
  rw [List.mapM_cons] at h
  obtain ⟨b, _, h⟩ := Option.bind_eq_some_iff.1 h
  obtain ⟨bs, _, ⟨⟩⟩ := Option.bind_eq_some_iff.1 h
  exact List.cons_ne_nil b bs

theorem mapM_concat_eq_some {f : α → Option β} {as : List α} {a : α} {cs : List β}
    (h : (as ++ [a]).mapM f = some cs) :
    ∃ bs b, as.mapM f = some bs ∧ f a = some b ∧ cs = bs ++ [b] := by
  rw [List.mapM_append, List.mapM_cons] at h
  obtain ⟨bs, hbs, h⟩ := Option.bind_eq_some_iff.1 h
  obtain ⟨_, hlast, ⟨⟩⟩ := Option.bind_eq_some_iff.1 h
  obtain ⟨b, hb, ⟨⟩⟩ := Option.bind_eq_some_iff.1 hlast
  exact ⟨bs, b, hbs, hb, rfl⟩

end Lists

/-- In a statement a name ends in its last part, and that is written by itself. -/
theorem Builder.ident_qualified {b : Builder} {schema base written : String}
    (hbase : '.' ∉ base.toList) (h : b.ident (schema ++ "." ++ base) = .ok written) :
    ∃ before part, b.identPart? base.toList = some part ∧ written.toList = before ++ '.' :: part := by
  have hparts : (schema ++ "." ++ base).toList.splitOn '.' =
      schema.toList.splitOn '.' ++ [base.toList] := by
    rw [← List.splitOn_eq_singleton hbase, ← List.splitOn_append_cons_self]
    simp
  rw [ident, hparts] at h
  split at h
  · cases h
  · split at h
    · cases h
      obtain ⟨parts, part, hschema, hpart, rfl⟩ := mapM_concat_eq_some ‹_›
      refine ⟨['.'].intercalate parts, part, hpart, ?_⟩
      rw [String.toList_ofList, intercalate_concat (ne_nil_of_mapM (List.splitOn_ne_nil _ _) hschema),
        List.append_assoc, List.singleton_append]
    · cases h

/-! ## On a catalog -/

variable {σ : Type}

/-- What is made and dropped under a name with a schema hangs on tables whose own names have a point.
    Where none has, the table is made and not dropped, and the column is added, whatever is listed under
    the last part of the name; the statement is about just that part. -/
theorem Edit.perform_qualified (e : Editor) (ignoring : Bool) (c : Connection σ)
    (catalog : σ → Catalog) (learned : Option CaseRule) (s : σ) (hshows : c.Shows catalog)
    (hhas : e.inspector.endpoint.hasCatalog = true) (hknows : (catalog s).Knows learned)
    (schema base column written : String) (hbase : '.' ∉ base.toList)
    (hwritten : ((catalog s).builderFor e.inspector).ident (schema ++ "." ++ base) = .ok written) :
    let k := catalog s
    let rule := k.ruleFor e.inspector
    let builder := k.builderFor e.inspector
    let table := schema ++ "." ++ base
    let foundTable := k.hasTable (rule.apply table) && Text.sameName (rule.apply table) table
    let foundColumn := Text.sameName (rule.apply column) column &&
      (k.column? (rule.apply table) (rule.apply column)).isSome
    (∃ before part, builder.identPart? base.toList = some part ∧
        written.toList = before ++ '.' :: part) ∧
      ((∀ t ∈ k.tables, '.' ∉ t.name.toList) → foundTable = false) ∧
      ((∀ x ∈ k.columns, '.' ∉ x.table.toList) → foundColumn = false) ∧
      (let t := ((dropTable table).perform e ignoring).transcript c learned s
       Skips ignoring (!foundTable) ["DROP TABLE " ++ written] (sent false t.exchanges)
         t.result.1) ∧
      (∀ spec sql, spec.name = table → builder.createTable spec = .ok sql →
        let t := ((createTable spec).perform e ignoring).transcript c learned s
        Skips ignoring foundTable [sql] (sent false t.exchanges) t.result.1) ∧
      ∀ spec batch, spec.name = column → builder.addColumn table spec = .ok batch →
        let t := ((addColumn table spec).perform e ignoring).transcript c learned s
        Skips ignoring foundColumn batch.statements (sent false t.exchanges) t.result.1 := by
  intro k rule builder table foundTable foundColumn
  have hpoint : '.' ∈ (rule.apply table).toList :=
    (rule.mem_apply_iff (by decide) (by decide)).2 (by simp [table])
  have htable : Finds c catalog k (e.inspector.tableExists table) foundTable :=
    .tableExists hshows hhas table
  have hcolumn : Finds c catalog k (e.inspector.columnExists table column) foundColumn :=
    .columnExists hshows hhas table column
  have hdrop : builder.dropTable table = .ok ("DROP TABLE " ++ written) := by
    rw [Builder.dropTable, hwritten]
    rfl
  refine ⟨Builder.ident_qualified hbase hwritten, fun hplain => ?_, fun hplain => ?_, ?_, ?_, ?_⟩
  · show (k.hasTable _ && _) = false
    rw [Catalog.hasTable_of_points hpoint hplain, Bool.false_and]
  · show (_ && (k.column? _ _).isSome) = false
    rw [Catalog.column?_of_points hpoint hplain, Option.isSome_none, Bool.and_false]
  · exact ((Settles.dropTable hshows hhas hdrop htable).transcript hknows rfl).1
  · rintro spec sql hname hmade
    rw [← hname] at htable
    exact ((Settles.createTable hshows hhas hmade htable).transcript hknows rfl).1
  · rintro spec batch rfl hmade
    exact ((Settles.addColumn hshows hhas hmade hcolumn).transcript hknows rfl).1

/-! ## A table that is listed without its schema -/

namespace Catalog

/-- A table and its column, as they are listed under their own names. -/
def unqualified : Catalog where
  rule := .upper
  exact := true
  tables := [⟨"T", .table⟩]
  columns := [⟨"T", "A", 1, "INTEGER", .integer, true, none, none⟩]

/-- An editor that learns the case rule from the catalog. -/
def unqualifiedEditor : Editor where
  inspector := ⟨⟨"driver", "product", true⟩, .generic, {}⟩
  config := { driver := "driver", url := "url" }

end Catalog

open Catalog in
/-- The table is not dropped, and its column is added once more. -/
theorem Edit.perform_qualified_unqualified :
    (let t := ((dropTable "s.t").perform unqualifiedEditor false).transcript connection none unqualified
     Skips false true ["DROP TABLE s.t"] (sent false t.exchanges) t.result.1) ∧
    let spec : ColumnSpec := { name := "a", type := .integer }
    let t := ((addColumn "s.t" spec).perform unqualifiedEditor false).transcript connection none
      unqualified
    Skips false false ["ALTER TABLE s.t ADD COLUMN a INTEGER"] (sent false t.exchanges) t.result.1 := by
  obtain ⟨-, htable, hcolumn, hdropped, -, hadded⟩ := perform_qualified unqualifiedEditor false
    connection id none unqualified Catalog.connection_shows rfl (knows_none _) "s" "t" "a" "s.t"
    (by decide) rfl
  rw [htable (by decide)] at hdropped
  have hadded := hadded { name := "a", type := .integer } _ rfl rfl
  rw [hcolumn (by decide)] at hadded
  exact ⟨hdropped, hadded⟩

open Catalog in
/-- Table and column are listed under the folded last part of the name, and neither is found: the table
    is made once more and not dropped, and the column is added once more. -/
theorem Inspector.qualified_missed :
    let rule := unqualified.ruleFor unqualifiedEditor.inspector
    let spec : ColumnSpec := { name := "a", type := .integer }
    let made := ((Edit.createTable { name := "s.t", columns := [spec] }).perform unqualifiedEditor
      false).transcript connection none unqualified
    let dropped := ((Edit.dropTable "s.t").perform unqualifiedEditor false).transcript connection none
      unqualified
    let added := ((Edit.addColumn "s.t" spec).perform unqualifiedEditor false).transcript connection
      none unqualified
    ((unqualified.builderFor unqualifiedEditor.inspector).ident "s.t" = .ok "s.t" ∧
        ⟨rule.apply "t", .table⟩ ∈ unqualified.tables ∧
        ∃ x ∈ unqualified.columns, x.table = rule.apply "t" ∧ x.name = rule.apply "a") ∧
      (dropped.result.1 = .ok .skipped ∧ sent false dropped.exchanges = []) ∧
      (sent false made.exchanges).map Exchange.request =
        [.execute "CREATE TABLE s.t (a INTEGER)" []] ∧
      (sent false added.exchanges).map Exchange.request =
        [.execute "ALTER TABLE s.t ADD COLUMN a INTEGER" []] := by
  intro rule spec made dropped added
  have htable : rule.apply "t" = "T" := rfl
  have hcolumn : rule.apply "a" = "A" := rfl
  rw [htable, hcolumn]
  exact ⟨⟨rfl, List.mem_singleton_self _, _, List.mem_singleton_self _, rfl, rfl⟩,
    ⟨rfl, rfl⟩, by decide +kernel, by decide +kernel⟩

end SchemaChange
