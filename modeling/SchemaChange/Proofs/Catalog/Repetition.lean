import SchemaChange.Proofs.Catalog.Existence
import SchemaChange.Proofs.Catalog.ForeignKey
import SchemaChange.Proofs.Course.Series
import SchemaChange.Proofs.Spec.Distinct

/-!
# Changes that are there already

A change that the catalog shows already is skipped, and nothing but look-ups is made (`Untouched`). What
is to be made is there if it is listed under the names that the database stores, and what is to be
dropped is gone if nothing of its name is listed, ignoring the case of ASCII letters.

All look-ups in a table come to the same test: of the rows whose table passes for the folded name, one is
of the name asked for (`Finds.indexExists`, `Finds.hasForeignKeyNamed`, `Finds.hasPrimaryKey`). For names
of ASCII characters the rows that pass are those of the table asked for (`Catalog.any_rows_eq_false`), and
columns that are told apart are still told apart once they are folded (`Distinct.map_apply`), so that a
foreign key is found in any order of its rows.

* `Edit.perform_repeated`: creating, adding and dropping once more.
-/

namespace SchemaChange

/-! ## Folded names -/

/-- Folding keeps names of ASCII characters the same, and keeps them apart. -/
theorem CaseRule.sameName_apply_apply (rule : CaseRule) {a b : String}
    (ha : Text.IsAscii a.toList) (hb : Text.IsAscii b.toList) :
    Text.sameName (rule.apply a) (rule.apply b) = Text.sameName a b := by
  rw [Text.sameName_congr (rule.sameName_apply ha), Text.sameName_comm,
    Text.sameName_congr (rule.sameName_apply hb), Text.sameName_comm]

theorem Distinct.map_apply {names : List String} (h : Distinct names) (rule : CaseRule)
    (hascii : ∀ name ∈ names, Text.IsAscii name.toList) : Distinct (names.map rule.apply) := by
  refine List.pairwise_map.2 (h.imp_of_mem fun {a b} ha hb hab => ?_)
  rw [rule.sameName_apply_apply (hascii a ha) (hascii b hb)]
  exact hab

/-- Pairs of columns that are told apart on both sides are apart. -/
theorem Distinct.apart {as bs : List String} (ha : Distinct as) (hb : Distinct bs) :
    Apart (as.zip bs) := by
  induction as generalizing bs with
  | nil => exact .nil
  | cons a as ih =>
    cases bs with
    | nil => exact .nil
    | cons b bs =>
      obtain ⟨ha, has⟩ := List.pairwise_cons.1 ha
      obtain ⟨hb, hbs⟩ := List.pairwise_cons.1 hb
      refine List.pairwise_cons.2 ⟨fun p hp => ?_, ih has hbs⟩
      obtain ⟨hfst, hsnd⟩ := List.of_mem_zip (a := p.1) (b := p.2) hp
      exact ⟨ha p.1 hfst, hb p.2 hsnd⟩

namespace Catalog

variable {k : Catalog} {rule : CaseRule} {table name : String}

/-- What passes for a folded name of ASCII characters is of that name. -/
theorem sameName_of_passes_apply (hascii : Text.IsAscii name.toList) {listed : String}
    (h : k.passes (some (rule.apply name)) listed = true) : Text.sameName listed name = true := by
  rw [sameName_of_passes h]
  exact rule.sameName_apply hascii

/-- No row passes for a table if the table has none of that kind. -/
theorem any_rows_eq_false {α : Type} {rows : List α} {tableOf : α → String} {named : α → Bool}
    (hascii : Text.IsAscii table.toList)
    (habsent : ∀ x ∈ rows, Text.sameName (tableOf x) table = true → named x = false) :
    (rows.any fun x => k.passes (some (rule.apply table)) (tableOf x) && named x) = false := by
  refine List.any_eq_false.2 fun x hx hfound => ?_
  obtain ⟨hpasses, hnamed⟩ := Bool.and_eq_true_iff.1 hfound
  rw [habsent x hx (sameName_of_passes_apply hascii hpasses)] at hnamed
  exact Bool.false_ne_true hnamed

theorem hasTable_eq_false (hascii : Text.IsAscii table.toList)
    (habsent : ∀ t ∈ k.tables, t.kind = .table → Text.sameName t.name table = false) :
    k.hasTable (rule.apply table) = false := by
  refine List.any_eq_false.2 fun t ht hfound => ?_
  obtain ⟨hkind, hpasses⟩ := Bool.and_eq_true_iff.1 hfound
  have hsame := sameName_of_passes_apply hascii hpasses
  rw [habsent t ht (beq_iff_eq.1 hkind)] at hsame
  exact Bool.false_ne_true hsame

theorem column?_eq_none (htable : Text.IsAscii table.toList) (hname : Text.IsAscii name.toList)
    (habsent : ∀ x ∈ k.columns, Text.sameName x.table table = true →
      Text.sameName x.name name = false) :
    k.column? (rule.apply table) (rule.apply name) = none := by
  refine List.find?_eq_none.2 fun x hx hfound => ?_
  obtain ⟨hpasses, hpasses'⟩ := Bool.and_eq_true_iff.1 hfound
  have hsame := sameName_of_passes_apply hname hpasses'
  rw [habsent x hx (sameName_of_passes_apply htable hpasses)] at hsame
  exact Bool.false_ne_true hsame

end Catalog

variable {σ : Type} {c : Connection σ} {catalog : σ → Catalog} {k : Catalog}

/-! ## What is found in a table -/

namespace Finds

variable {i : Inspector} (hshows : c.Shows catalog) (hhas : i.endpoint.hasCatalog = true)

include hshows hhas

theorem indexExists (table name : String) :
    Finds c catalog k (i.indexExists table name)
      (k.indexes.any fun x =>
        k.passes (some ((k.ruleFor i).apply table)) x.table && Text.sameName x.name name) := by
  refine (fold hshows hhas table).bind ((inCatalog hshows hhas _ rfl rfl).bind ?_)
  rw [← List.any_filter]
  exact .pure _

theorem hasForeignKeyNamed (table name : String) :
    Finds c catalog k (i.hasForeignKeyNamed table name)
      (k.foreignKeys.any fun row => k.passes (some ((k.ruleFor i).apply table)) row.table &&
        row.constraint?.any (Text.sameName · name)) := by
  have hkeys : Finds c catalog k (i.importedForeignKeys table)
      (k.foreignKeys.filter (k.passes (some ((k.ruleFor i).apply table)) ·.table)) :=
    (fold hshows hhas table).bind (inCatalog hshows hhas _ rfl rfl)
  refine hkeys.bind ?_
  rw [← List.any_filter]
  exact .pure _

theorem primaryKeyColumns (table : String) :
    Finds c catalog k (i.primaryKeyColumns table)
      (((k.primaryKeys.filter (k.passes (some ((k.ruleFor i).apply table)) ·.table)).mergeSort
        fun a b => a.position ≤ b.position).map (·.column)) :=
  (fold hshows hhas table).bind ((inCatalog hshows hhas _ rfl rfl).bind (.pure _))

/-- The order of the key's columns makes no difference. -/
theorem hasPrimaryKey (table column : String) :
    Finds c catalog k (i.hasPrimaryKey table (some column))
      (k.primaryKeys.any fun row => k.passes (some ((k.ruleFor i).apply table)) row.table &&
        Text.sameName row.column column) := by
  refine (primaryKeyColumns hshows hhas table).bind ?_
  show Finds c catalog k (Pure.pure (List.any _ _)) _
  rw [List.any_map, (List.mergeSort_perm _ _).any_eq, List.any_filter]
  exact .pure _

/-- A foreign key is found if each of its pairs is listed between the two tables, in any order. -/
theorem hasForeignKey_of_pairs {table referenced : String} {columns references : List String}
    (hlength : columns.length = references.length) (hne : columns ≠ [])
    (hapart : Apart ((k.ruleFor i).pairs columns references))
    (hstored : ∀ p ∈ (k.ruleFor i).pairs columns references, ∃ row ∈ k.foreignKeys,
      row.table = (k.ruleFor i).apply table ∧
        row.referencedTable = (k.ruleFor i).apply referenced ∧ row.pair = p) :
    Finds c catalog k (i.hasForeignKey table referenced columns references) true := by
  have hfinds := hasForeignKey (k := k) hshows hhas table referenced hlength hne hapart
  have hall : (((k.ruleFor i).pairs columns references).all fun p =>
      (k.references ((k.ruleFor i).apply table) ((k.ruleFor i).apply referenced)).any
        (·.joins p)) = true := by
    refine List.all_eq_true.2 fun p hp => ?_
    obtain ⟨row, hrow, htable, hreferenced, rfl⟩ := hstored p hp
    refine List.any_eq_true.2 ⟨row, List.mem_filter.2 ⟨hrow, ?_⟩, ForeignKeyColumn.joins_iff.2 rfl⟩
    rw [htable, hreferenced, k.passes_self, k.passes_self]
    rfl
  rwa [hall] at hfinds

end Finds

/-! ## What is skipped -/

/-- The change was skipped, and nothing but look-ups was made for it. -/
def Untouched (t : Operation.Transcript Outcome σ) : Prop :=
  t.result.1 = .ok .skipped ∧ ∀ x ∈ t.exchanges, x.request.looksUp true = true

namespace Settles

/-- What is skipped leaves no trace. -/
theorem untouched {o : Operation Outcome} {ignoring : Bool} {sqls : List String} {learned : Option CaseRule} {s : σ}
    (h : Settles c catalog (catalog s) true o (Skips ignoring true sqls))
    (hknows : (catalog s).Knows learned) : Untouched (o.transcript c learned s) := by
  obtain ⟨⟨hsent, hresult⟩, -⟩ := h.transcript hknows rfl
  refine ⟨hresult, fun x hx => ?_⟩
  have hlook := List.filter_eq_nil_iff.1 hsent x hx
  rwa [Bool.not_eq_true', Bool.not_eq_false] at hlook

end Settles

/-- Changes that the catalog shows already are skipped without a statement. What is made is listed under
    the names that the database stores; what is dropped is not listed, ignoring the case of ASCII
    letters. -/
theorem Edit.perform_repeated (e : Editor) (ignoring : Bool) (c : Connection σ)
    (catalog : σ → Catalog) (learned : Option CaseRule) (s : σ) (hshows : c.Shows catalog)
    (hhas : e.inspector.endpoint.hasCatalog = true) (hknows : (catalog s).Knows learned)
    (table name : String) (htable : Text.IsAscii table.toList) (hname : Text.IsAscii name.toList) :
    let k := catalog s
    let rule := k.ruleFor e.inspector
    let builder := k.builderFor e.inspector
    let untouched (o : Operation Outcome) := Untouched (o.transcript c learned s)
    (∀ spec sql, spec.name = table → builder.createTable spec = .ok sql →
        ⟨rule.apply table, .table⟩ ∈ k.tables → untouched ((createTable spec).perform e ignoring)) ∧
      (∀ spec batch, spec.name = name → builder.addColumn table spec = .ok batch →
        (∃ x ∈ k.columns, x.table = rule.apply table ∧ x.name = rule.apply name) →
          untouched ((addColumn table spec).perform e ignoring)) ∧
      (∀ columns unique sql, builder.createIndex table name columns unique = .ok sql →
        (∃ x ∈ k.indexes, x.table = rule.apply table ∧ x.name = rule.apply name) →
          untouched ((createIndex table name columns unique).perform e ignoring)) ∧
      (∀ spec referenced references cascade sql,
        spec.kind = .foreignKey referenced references cascade →
        (∀ column ∈ spec.columns ++ references, Text.IsAscii column.toList) →
        builder.addConstraint spec = .ok sql →
        (∀ p ∈ rule.pairs spec.columns references, ∃ row ∈ k.foreignKeys,
          row.table = rule.apply spec.table ∧ row.referencedTable = rule.apply referenced ∧
            row.pair = p) →
          untouched ((addForeignKey spec).perform e ignoring)) ∧
      (∀ sql, builder.dropTable table = .ok sql →
        (∀ t ∈ k.tables, t.kind = .table → Text.sameName t.name table = false) →
          untouched ((dropTable table).perform e ignoring)) ∧
      (∀ sql, builder.dropColumn table name = .ok sql →
        (∀ x ∈ k.columns, Text.sameName x.table table = true → Text.sameName x.name name = false) →
          untouched ((dropColumn table name).perform e ignoring)) ∧
      (∀ sql, builder.dropIndex table name = .ok sql →
        (∀ x ∈ k.indexes, Text.sameName x.table table = true → Text.sameName x.name name = false) →
          untouched ((dropIndex table name).perform e ignoring)) ∧
      (∀ sql, builder.dropForeignKey table name = .ok sql →
        (∀ row ∈ k.foreignKeys, Text.sameName row.table table = true →
          row.constraint?.any (Text.sameName · name) = false) →
          untouched ((dropForeignKey table name).perform e ignoring)) ∧
      ∀ key sql, builder.dropPrimaryKey table key = .ok sql →
        (∀ row ∈ k.primaryKeys, Text.sameName row.table table = true →
          Text.sameName row.column name = false) →
          untouched ((dropPrimaryKey table key (some name)).perform e ignoring) := by
  intro k rule builder untouched
  refine ⟨?_, ?_, ?_, ?_, ?_, ?_, ?_, ?_, ?_⟩
  -- What is made is found, as it is listed under its folded name.
  · rintro spec sql rfl hmade hstored
    exact (Settles.createTable hshows hhas hmade
      (.tableExists_of_isAscii hshows hhas htable hstored)).untouched hknows
  · rintro spec batch rfl hmade ⟨x, hx, hxtable, hxname⟩
    exact (Settles.addColumn hshows hhas hmade
      (.columnExists_of_isAscii hshows hhas hname hx hxtable hxname)).untouched hknows
  · rintro columns unique sql hmade ⟨x, hx, hxtable, hxname⟩
    have hfound : (k.indexes.any fun x =>
        k.passes (some (rule.apply table)) x.table && Text.sameName x.name name) = true := by
      refine List.any_eq_true.2 ⟨x, hx, ?_⟩
      rw [hxtable, hxname, k.passes_self, rule.sameName_apply hname]
      rfl
    exact (Settles.buildUnless hshows hhas hmade
      (hfound ▸ .indexExists hshows hhas table name) id).untouched hknows
  · intro spec referenced references cascade sql hkind hascii hmade hstored
    obtain ⟨_, hvalid, -⟩ := Builder.bind_ok hmade
    obtain ⟨hne, hcolumns, hlength, hreferences⟩ := ConstraintSpec.of_validate hkind hvalid
    have hapart : Apart (rule.pairs spec.columns references) :=
      (hcolumns.map_apply rule fun n hn => hascii n (List.mem_append_left _ hn)).apart
        (hreferences.map_apply rule fun n hn => hascii n (List.mem_append_right _ hn))
    exact (Settles.addForeignKey hshows hhas hkind hmade
      (.hasForeignKey_of_pairs hshows hhas hlength hne hapart hstored)).untouched hknows
  -- What is dropped is not found: whatever passes for its folded name would be of its name.
  · intro sql hmade habsent
    have hfinds := Finds.tableExists (k := k) hshows hhas table
    rw [Catalog.hasTable_eq_false htable habsent, Bool.false_and] at hfinds
    exact (Settles.dropTable hshows hhas hmade hfinds).untouched hknows
  · intro sql hmade habsent
    have hfinds := Finds.columnExists (k := k) hshows hhas table name
    rw [Catalog.column?_eq_none htable hname habsent, Option.isSome_none, Bool.and_false] at hfinds
    exact (Settles.dropColumn hshows hhas hmade hfinds).untouched hknows
  · intro sql hmade habsent
    have hfinds := Finds.indexExists (k := k) hshows hhas table name
    rw [Catalog.any_rows_eq_false htable habsent] at hfinds
    exact (Settles.buildUnless hshows hhas hmade hfinds not).untouched hknows
  · intro sql hmade habsent
    have hfinds := Finds.hasForeignKeyNamed (k := k) hshows hhas table name
    rw [Catalog.any_rows_eq_false htable habsent] at hfinds
    exact (Settles.buildUnless hshows hhas hmade hfinds not).untouched hknows
  · intro key sql hmade habsent
    have hfinds := Finds.hasPrimaryKey (k := k) hshows hhas table name
    rw [Catalog.any_rows_eq_false htable habsent] at hfinds
    exact (Settles.buildUnless hshows hhas hmade hfinds not).untouched hknows

/-! ## A foreign key whose rows are listed backwards -/

namespace Catalog

/-- A foreign key of two columns, as a database that folds to capitals lists it. -/
def backwards : Catalog where
  rule := .upper
  exact := true
  foreignKeys := [⟨some "FK", "T", "B", "R", "Y", 2, .noAction⟩,
    ⟨some "FK", "T", "A", "R", "X", 1, .noAction⟩]

/-- An editor that learns the case rule from the catalog. -/
def backwardsEditor : Editor where
  inspector := ⟨⟨"driver", "product", true⟩, .generic, {}⟩
  config := { driver := "driver", url := "url" }

/-- The same key, as it is asked for. -/
def backwardsSpec : ConstraintSpec where
  table := "t"
  name := "fk"
  columns := ["a", "b"]
  kind := .foreignKey "r" ["x", "y"] false

end Catalog

open Catalog in
/-- The key is not added again, and a key of another name is not dropped. -/
theorem Edit.perform_repeated_backwards :
    Untouched (((addForeignKey backwardsSpec).perform backwardsEditor false).transcript
        Catalog.connection none backwards) ∧
      Untouched (((dropForeignKey "t" "gone").perform backwardsEditor false).transcript
        Catalog.connection none backwards) := by
  have hpairs : CaseRule.upper.pairs ["a", "b"] ["x", "y"] = [("A", "X"), ("B", "Y")] := rfl
  have htable : CaseRule.upper.apply "t" = "T" := rfl
  have hreferenced : CaseRule.upper.apply "r" = "R" := rfl
  obtain ⟨-, -, -, hadded, -, -, -, hdropped, -⟩ :=
    perform_repeated backwardsEditor false Catalog.connection id none backwards
      Catalog.connection_shows rfl (knows_none _) "t" "gone" (by decide) (by decide)
  refine ⟨hadded backwardsSpec "r" ["x", "y"] false _ rfl (by decide) rfl ?_,
    hdropped _ rfl ?_⟩
  · show ∀ p ∈ CaseRule.upper.pairs ["a", "b"] ["x", "y"], ∃ row ∈ backwards.foreignKeys,
      row.table = CaseRule.upper.apply "t" ∧ row.referencedTable = CaseRule.upper.apply "r" ∧
        row.pair = p
    rw [hpairs, htable, hreferenced]
    decide
  · have hnames : ∀ row ∈ backwards.foreignKeys,
        row.constraint?.any (Text.sameName · "gone") = false := by decide
    exact fun row hrow _ => hnames row hrow

end SchemaChange
