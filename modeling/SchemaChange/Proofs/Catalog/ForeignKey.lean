import Mathlib.Data.List.Perm.Subperm
import Mathlib.Order.Basic
import SchemaChange.Proofs.Catalog.Shown

/-!
# Which foreign keys are found

A foreign key is looked for in all rows that the catalog lists between two tables, whichever key they
belong to. It is found if each of its pairs of columns is one of these rows (`Inspector.pairsCover_eq`),
so it is found where its pairs are spread over several keys or are part of a larger one, and the rows
are those of one key with the same pairs only where there are no more of them than pairs
(`Inspector.perm_of_covers`).

* `Edit.perform_foreignKey`: when a foreign key is found, and when it is added;
* `Inspector.foreignKey_spread`: a key that is found though no key has its pairs.
-/

namespace SchemaChange

/-! ## Pairs of columns -/

/-- A pair of columns as it is compared: ignoring the case of ASCII letters. -/
def comparedPair (p : String × String) : List Char × List Char :=
  (Text.asciiLower p.1.toList, Text.asciiLower p.2.toList)

namespace ForeignKeyColumn

/-- The column and the one that it refers to. -/
def pair (row : ForeignKeyColumn) : String × String :=
  (row.column, row.referencedColumn)

/-- Whether the row has the two columns of a pair. -/
def joins (row : ForeignKeyColumn) (p : String × String) : Bool :=
  Text.sameName p.1 row.column && Text.sameName p.2 row.referencedColumn

theorem joins_iff {row : ForeignKeyColumn} {p : String × String} :
    row.joins p = true ↔ comparedPair p = comparedPair row.pair := by
  rw [joins, Bool.and_eq_true_iff, Text.sameName_iff, Text.sameName_iff, comparedPair, comparedPair,
    Prod.mk.injEq]
  rfl

end ForeignKeyColumn

/-- No two pairs have the same column, and no two refer to the same one. -/
def Apart (ps : List (String × String)) : Prop :=
  ps.Pairwise fun p q => Text.sameName p.1 q.1 = false ∧ Text.sameName p.2 q.2 = false

namespace Inspector

variable {row : ForeignKeyColumn} {rows : List ForeignKeyColumn} {ps : List (String × String)}

/-- Takes the pair of one row from two lists of columns. -/
def takePair (row : ForeignKeyColumn) (columns references : List String) :
    List String × List String :=
  match columns.findIdx? (Text.sameName · row.column),
      references.findIdx? (Text.sameName · row.referencedColumn) with
  | some m, some n =>
    if m = n then (columns.eraseIdx m, references.eraseIdx n) else (columns, references)
  | _, _ => (columns, references)

theorem takePairs_cons (row : ForeignKeyColumn) (rows : List ForeignKeyColumn)
    (columns references : List String) :
    takePairs (row :: rows) columns references =
      takePairs rows (takePair row columns references).1 (takePair row columns references).2 := by
  rw [takePairs, takePair]
  cases columns.findIdx? (Text.sameName · row.column) with
  | none => rfl
  | some m =>
    cases references.findIdx? (Text.sameName · row.referencedColumn) with
    | none => rfl
    | some n => by_cases h : m = n <;> simp only [h, if_true, if_false]

/-- Neither name is one of the row's. -/
theorem takePair_cons_of_neither {column reference : String} (columns references : List String)
    (hc : Text.sameName column row.column = false)
    (hr : Text.sameName reference row.referencedColumn = false) :
    takePair row (column :: columns) (reference :: references) =
      (column :: (takePair row columns references).1,
        reference :: (takePair row columns references).2) := by
  unfold takePair
  rw [List.findIdx?_cons, List.findIdx?_cons, hc, hr]
  cases columns.findIdx? (Text.sameName · row.column) with
  | none => rfl
  | some m =>
    cases references.findIdx? (Text.sameName · row.referencedColumn) with
    | none => rfl
    | some n => by_cases h : m = n <;> simp [h]

/-- Just one of the names is one of the row's, and no name after the other one is. -/
theorem takePair_cons_of_either {column reference : String} (columns references : List String)
    (h : Text.sameName column row.column ≠ Text.sameName reference row.referencedColumn) :
    takePair row (column :: columns) (reference :: references) =
      (column :: columns, reference :: references) := by
  unfold takePair
  rw [List.findIdx?_cons, List.findIdx?_cons]
  cases hc : Text.sameName column row.column <;>
    cases hr : Text.sameName reference row.referencedColumn <;> rw [hc, hr] at h
  · exact absurd rfl h
  · cases columns.findIdx? (Text.sameName · row.column) <;> rfl
  · cases references.findIdx? (Text.sameName · row.referencedColumn) <;> rfl
  · exact absurd rfl h

theorem takePair_cons_of_both {column reference : String} (columns references : List String)
    (hc : Text.sameName column row.column = true)
    (hr : Text.sameName reference row.referencedColumn = true) :
    takePair row (column :: columns) (reference :: references) = (columns, references) := by
  unfold takePair
  rw [List.findIdx?_cons, List.findIdx?_cons, hc, hr]
  rfl

/-- A row that has a name of one pair joins no pair that is apart from it. -/
theorem filter_of_apart {p : String × String}
    (hp : ∀ q ∈ ps, Text.sameName p.1 q.1 = false ∧ Text.sameName p.2 q.2 = false)
    (h : Text.sameName p.1 row.column = true ∨ Text.sameName p.2 row.referencedColumn = true) :
    ps.filter (!row.joins ·) = ps := by
  refine List.filter_eq_self.2 fun q hq => ?_
  rw [ForeignKeyColumn.joins]
  rcases h with h | h
  · have hq := (hp q hq).1
    rw [Text.sameName_congr h, Text.sameName_comm] at hq
    rw [hq]
    rfl
  · have hq := (hp q hq).2
    rw [Text.sameName_congr h, Text.sameName_comm] at hq
    rw [hq, Bool.and_false]
    rfl

/-- A row takes the pair that it joins, and no other. -/
theorem takePair_eq (row : ForeignKeyColumn) (h : Apart ps) :
    takePair row (ps.map Prod.fst) (ps.map Prod.snd) =
      ((ps.filter (!row.joins ·)).map Prod.fst, (ps.filter (!row.joins ·)).map Prod.snd) := by
  induction ps with
  | nil => rfl
  | cons p ps ih =>
    obtain ⟨hp, hps⟩ := List.pairwise_cons.1 h
    rw [List.map_cons, List.map_cons, List.filter_cons]
    -- The row has neither name of the first pair, or just one of them, or both. If it has one then it
    -- has no name of a later pair in the same place, and joins none.
    cases hc : Text.sameName p.1 row.column <;>
      cases hr : Text.sameName p.2 row.referencedColumn
    · rw [takePair_cons_of_neither _ _ hc hr, ih hps]
      simp [ForeignKeyColumn.joins, hc]
    · rw [takePair_cons_of_either _ _ (by rw [hc, hr]; exact Bool.false_ne_true),
        filter_of_apart hp (.inr hr)]
      simp [ForeignKeyColumn.joins, hc]
    · rw [takePair_cons_of_either _ _ (by rw [hc, hr]; exact Bool.false_ne_true.symm),
        filter_of_apart hp (.inl hc)]
      simp [ForeignKeyColumn.joins, hr]
    · rw [takePair_cons_of_both _ _ hc hr, filter_of_apart hp (.inl hc)]
      simp [ForeignKeyColumn.joins, hc, hr]

/-- The rows take the pairs that one of them joins. -/
theorem takePairs_eq (rows : List ForeignKeyColumn) (h : Apart ps) :
    takePairs rows (ps.map Prod.fst) (ps.map Prod.snd) =
      ((ps.filter fun p => !rows.any (·.joins p)).map Prod.fst,
        (ps.filter fun p => !rows.any (·.joins p)).map Prod.snd) := by
  induction rows generalizing ps with
  | nil => simp [takePairs]
  | cons row rows ih =>
    rw [takePairs_cons, takePair_eq row h, ih (h.filter _), List.filter_filter]
    simp [Bool.and_comm]

/-- Pairs are covered if there are any and each is joined by one of the rows. -/
theorem pairsCover_eq (rows : List ForeignKeyColumn) (h : Apart ps) (hne : ps ≠ []) :
    pairsCover rows (ps.map Prod.fst) (ps.map Prod.snd) = ps.all fun p => rows.any (·.joins p) := by
  unfold pairsCover
  rw [takePairs_eq rows h, Bool.eq_iff_iff]
  cases rows with
  | nil =>
    obtain ⟨p, ps, rfl⟩ := List.exists_cons_of_ne_nil hne
    simp
  | cons row rows =>
    have hall (f : String × String → Bool) : (ps.filter fun p => !f p) = [] ↔ ps.all f = true := by
      simp [List.filter_eq_nil_iff]
    rw [← hall]
    simp only [List.isEmpty_cons, Bool.not_false, Bool.true_and, Bool.and_eq_true,
      List.isEmpty_iff, List.map_eq_nil_iff, and_self]

/-- If there are no more rows than pairs then they are the pairs. -/
theorem perm_of_covers (h : Apart ps) (hcovers : (ps.all fun p => rows.any (·.joins p)) = true)
    (hlength : rows.length ≤ ps.length) :
    (rows.map fun row => comparedPair row.pair).Perm (ps.map comparedPair) := by
  have hnodup : (ps.map comparedPair).Nodup := List.pairwise_map.2 <| h.imp fun {p q} hpq heq => by
    have hsame : Text.sameName p.1 q.1 = true := Text.sameName_iff.2 (Prod.mk.inj heq).1
    rw [hpq.1] at hsame
    exact Bool.false_ne_true hsame
  -- A row joins one pair at most, so there are as many rows as pairs.
  have hsub : ps.map comparedPair ⊆ rows.map fun row => comparedPair row.pair := by
    intro x hx
    obtain ⟨p, hp, rfl⟩ := List.mem_map.1 hx
    obtain ⟨row, hrow, hjoins⟩ := List.any_eq_true.1 (List.all_eq_true.1 hcovers p hp)
    exact List.mem_map.2 ⟨row, hrow, (ForeignKeyColumn.joins_iff.1 hjoins).symm⟩
  refine ((List.subperm_of_subset hnodup hsub).perm_of_length_le ?_).symm
  rwa [List.length_map, List.length_map]

end Inspector

/-! ## On a catalog -/

/-- The rows that are listed for references from one stored table to another. -/
def Catalog.references (k : Catalog) (table referenced : String) : List ForeignKeyColumn :=
  k.foreignKeys.filter fun row =>
    k.passes (some referenced) row.referencedTable && k.passes (some table) row.table

/-- The pairs of columns that are asked for, as the database stores their names. -/
def CaseRule.pairs (rule : CaseRule) (columns references : List String) : List (String × String) :=
  (columns.map rule.apply).zip (references.map rule.apply)

variable {σ : Type} {c : Connection σ} {catalog : σ → Catalog} {k : Catalog} {i : Inspector}
  {columns references : List String}

namespace CaseRule

variable (rule : CaseRule)

theorem map_fst_pairs (hlength : columns.length = references.length) :
    (rule.pairs columns references).map Prod.fst = columns.map rule.apply :=
  List.map_fst_zip (by simp [hlength])

theorem map_snd_pairs (hlength : columns.length = references.length) :
    (rule.pairs columns references).map Prod.snd = references.map rule.apply :=
  List.map_snd_zip (by simp [hlength])

theorem pairs_ne_nil (hlength : columns.length = references.length) (hne : columns ≠ []) :
    rule.pairs columns references ≠ [] := fun h => by
  have hfst := rule.map_fst_pairs hlength
  rw [h, List.map_nil, eq_comm, List.map_eq_nil_iff] at hfst
  exact hne hfst

end CaseRule

/-- The columns and references that are asked for are covered if each of their pairs is one of the
    rows. -/
theorem Inspector.pairsCover_pairs {rule : CaseRule} (rows : List ForeignKeyColumn)
    (hlength : columns.length = references.length) (hne : columns ≠ [])
    (hapart : Apart (rule.pairs columns references)) :
    pairsCover rows (columns.map rule.apply) (references.map rule.apply) =
      (rule.pairs columns references).all fun p => rows.any (·.joins p) := by
  rw [← pairsCover_eq rows hapart (rule.pairs_ne_nil hlength hne), rule.map_fst_pairs hlength,
    rule.map_snd_pairs hlength]

/-- A foreign key is found if each of its pairs is one of the rows. -/
theorem Finds.hasForeignKey (hshows : c.Shows catalog) (hhas : i.endpoint.hasCatalog = true)
    (table referenced : String) (hlength : columns.length = references.length)
    (hne : columns ≠ []) (hapart : Apart ((k.ruleFor i).pairs columns references)) :
    Finds c catalog k (i.hasForeignKey table referenced columns references)
      (((k.ruleFor i).pairs columns references).all fun p =>
        (k.references ((k.ruleFor i).apply table) ((k.ruleFor i).apply referenced)).any
          (·.joins p)) := by
  rw [← Inspector.pairsCover_pairs _ hlength hne hapart]
  unfold Inspector.hasForeignKey
  simp only [if_neg (not_not_intro hlength), List.isEmpty_iff, if_neg hne]
  exact (caseRule hshows hhas).bind ((inCatalog hshows hhas _ rfl rfl).bind (.pure _))

theorem Settles.addForeignKey {e : Editor} {spec : ConstraintSpec} {copies ignoring found : Bool}
    {referenced sql : String} {cascade : Bool} (hshows : c.Shows catalog)
    (hhas : e.inspector.endpoint.hasCatalog = true)
    (hkind : spec.kind = .foreignKey referenced references cascade)
    (hmade : (k.builderFor e.inspector).addConstraint spec = .ok sql)
    (hfound : Finds c catalog k
      (e.inspector.hasForeignKey spec.table referenced spec.columns references) found) :
    Settles c catalog k copies (e.addForeignKey spec ignoring) (Skips ignoring found [sql]) := by
  unfold Editor.addForeignKey
  rw [hkind]
  exact .build hshows hhas hmade (.after hfound (.runUnless found sql))

/-- When a foreign key is found, and when it is added: it is taken to be there if each of its pairs is
    one of the rows between the two tables. If there are no more rows than pairs then it is there. -/
theorem Edit.perform_foreignKey (e : Editor) (ignoring : Bool) (c : Connection σ)
    (catalog : σ → Catalog) (learned : Option CaseRule) (s : σ) (hshows : c.Shows catalog)
    (hhas : e.inspector.endpoint.hasCatalog = true) (hknows : (catalog s).Knows learned)
    (table referenced : String) (columns references : List String)
    (hlength : columns.length = references.length) (hne : columns ≠ [])
    (hapart : Apart (((catalog s).ruleFor e.inspector).pairs columns references)) :
    let rule := (catalog s).ruleFor e.inspector
    let rows := (catalog s).references (rule.apply table) (rule.apply referenced)
    let found := (rule.pairs columns references).all fun p => rows.any (·.joins p)
    ((e.inspector.hasForeignKey table referenced columns references).transcript c learned s).result.1 =
        .ok found ∧
      (∀ name cascade sql,
        let spec : ConstraintSpec :=
          { table, name, columns, kind := .foreignKey referenced references cascade }
        ((catalog s).builderFor e.inspector).addConstraint spec = .ok sql →
          let t := ((addForeignKey spec).perform e ignoring).transcript c learned s
          Skips ignoring found [sql] (sent false t.exchanges) t.result.1) ∧
      (found = true → rows.length ≤ columns.length →
        (rows.map fun row => comparedPair row.pair).Perm
          ((rule.pairs columns references).map comparedPair)) := by
  intro rule rows found
  have hfinds : Finds c catalog (catalog s)
      (e.inspector.hasForeignKey table referenced columns references) found :=
    .hasForeignKey hshows hhas table referenced hlength hne hapart
  refine ⟨hfinds.transcript hknows, ?_, ?_⟩
  · intro name cascade sql spec hmade
    exact ((Settles.addForeignKey hshows hhas rfl hmade hfinds).transcript hknows rfl).1
  · intro hfound hrows
    refine Inspector.perm_of_covers hapart hfound (hrows.trans_eq ?_)
    simp [rule, CaseRule.pairs, hlength]

/-! ## Pairs that are spread over two keys -/

namespace Catalog

/-- Two foreign keys of one column each. -/
def spread : Catalog where
  rule := .verbatim
  exact := true
  foreignKeys := [⟨some "FK_A", "T", "A", "R", "X", 1, .noAction⟩,
    ⟨some "FK_B", "T", "B", "R", "Y", 1, .noAction⟩]

/-- An editor that learns the case rule from the catalog. -/
def spreadEditor : Editor where
  inspector := ⟨⟨"driver", "product", true⟩, .generic, {}⟩
  config := { driver := "driver", url := "url" }

/-- A foreign key of both columns. -/
def spreadSpec : ConstraintSpec where
  table := "T"
  name := "FK_AB"
  columns := ["A", "B"]
  kind := .foreignKey "R" ["X", "Y"] false

theorem apart_spread : Apart (CaseRule.verbatim.pairs ["A", "B"] ["X", "Y"]) := by
  have hpairs : CaseRule.verbatim.pairs ["A", "B"] ["X", "Y"] = [("A", "X"), ("B", "Y")] := rfl
  rw [hpairs, Apart, List.pairwise_pair]
  exact ⟨rfl, rfl⟩

end Catalog

open Catalog in
/-- Each of the two pairs is a row. -/
theorem Edit.perform_foreignKey_spread :
    ((spreadEditor.inspector.hasForeignKey "T" "R" ["A", "B"] ["X", "Y"]).transcript
      Catalog.connection none spread).result.1 = .ok true := by
  have hfound : ((CaseRule.verbatim.pairs ["A", "B"] ["X", "Y"]).all fun p =>
      (spread.references (CaseRule.verbatim.apply "T") (CaseRule.verbatim.apply "R")).any
        (·.joins p)) = true := rfl
  rw [← hfound]
  exact (perform_foreignKey spreadEditor false Catalog.connection id none spread
    Catalog.connection_shows rfl (knows_none _) "T" "R" ["A", "B"] ["X", "Y"] rfl
    (List.cons_ne_nil _ _) apart_spread).1

open Catalog in
/-- The key is found and not added, and no key has its pairs. -/
theorem Inspector.foreignKey_spread :
    ((spreadEditor.inspector.hasForeignKey "T" "R" ["A", "B"] ["X", "Y"]).transcript
        Catalog.connection none spread).result.1 = .ok true ∧
      (((Edit.addForeignKey spreadSpec).perform spreadEditor false).transcript Catalog.connection none
        spread).result.1 = .ok .skipped ∧
      ∀ constraint? : Option String,
        ¬((spread.foreignKeys.filter (·.constraint? = constraint?)).map fun row =>
          comparedPair row.pair).Perm ([("A", "X"), ("B", "Y")].map comparedPair) := by
  refine ⟨rfl, rfl, fun constraint? hperm => ?_⟩
  have hlength := hperm.length_eq
  by_cases ha : some "FK_A" = constraint?
  · subst ha
    simp [spread] at hlength
  · have hfew := List.length_filter_le (·.constraint? = constraint?) spread.foreignKeys.tail
    simp [spread, ha] at hlength hfew
    omega

end SchemaChange
