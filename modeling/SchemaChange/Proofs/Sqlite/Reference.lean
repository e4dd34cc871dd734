import SchemaChange.Proofs.Catalog.Pairing
import SchemaChange.Proofs.Sqlite.Listing

/-!
# References to a primary key

A foreign key that does not state the columns it refers to means the primary key of the other table: its
columns are paired with those of that key in the order of the key, wherever they stand in the table. The
rows of one key stand together in what SQLite reports, so it is found by its pairs, whatever other keys
the table has.

* `Table.map_primaryKeyColumns`: the columns of a primary key as they are listed;
* `Table.IsKeyed.primaryKeyColumns_eq`: they are those with a reported position, in the order of these;
* `Schema.reportsKey`: what is reported of a foreign key that states no columns;
* `implicit_reference`: where its rows come, and that the key is found.
-/

namespace SchemaChange.Sqlite

open Text

variable {s : Schema} {t p : Table} {k : ForeignKey} {name : String}

/-! ## The order of a key -/

namespace Table

/-- The columns of the primary key in the order in which it names them, without those that it has named
    before. -/
def keyNames (t : Table) : List String :=
  (t.primaryKey.eraseDupsBy sameName).map t.spelling

theorem sameName_spelling (t : Table) (name : String) : sameName (t.spelling name) name = true := by
  rw [spelling]
  cases hcolumn : t.column? name with
  | none => exact sameName_refl name
  | some column =>
    have hsame := List.find?_some hcolumn
    exact hsame

theorem map_keyColumnsFrom (t : Table) (position : Nat) (earlier keys : List String) :
    (t.keyColumnsFrom position earlier keys).map (·.column) =
      ((keys.filter fun key => !earlier.any (sameName · key)).eraseDupsBy sameName).map t.spelling := by
  induction keys generalizing position earlier with
  | nil => rfl
  | cons key keys ih =>
    rw [keyColumnsFrom, List.filter_cons]
    cases hseen : earlier.any (sameName · key) with
    | true =>
      -- What is the same as the key is the same as an earlier one.
      obtain ⟨a, ha, hsame⟩ := List.any_eq_true.1 hseen
      have hfilter : ∀ b ∈ keys, (!(key :: earlier).any (sameName · b)) = !earlier.any (sameName · b) := by
        intro b _
        rw [List.any_cons]
        cases hb : sameName key b with
        | false => rfl
        | true =>
          rw [List.any_eq_true.2 ⟨a, ha, (sameName_congr hsame b).trans hb⟩]
          rfl
      simp only [if_true, ih, List.filter_congr hfilter]
      rfl
    | false =>
      have hfilter : ∀ b ∈ keys, (!(key :: earlier).any (sameName · b)) =
          (decide (sameName b key = false) && !earlier.any (sameName · b)) := by
        intro b _
        rw [List.any_cons, sameName_comm key, Bool.not_or]
        cases sameName b key <;> rfl
      simp only [Bool.false_eq_true, if_false, List.map_cons, ih, List.filter_congr hfilter]
      rw [← List.filter_filter]
      simp [List.eraseDupsBy_cons]

theorem map_primaryKeyColumns (t : Table) : t.primaryKeyColumns.map (·.column) = t.keyNames := by
  rw [primaryKeyColumns, map_keyColumnsFrom]
  simp [keyNames]

/-! ### Reported positions -/

/-- What SQLite reports of a column: its name and its position in the primary key, counted from one, or
    zero for a column that is not in it. -/
structure ColumnReport where
  name : String
  position : Nat

/-- The position of a column in the primary key. -/
def keyPosition (t : Table) (name : String) : Nat :=
  ((t.primaryKey.findIdx? (sameName · name)).map (· + 1)).getD 0

/-- The reports of the columns, in the order of the table. -/
def columnReports (t : Table) : List ColumnReport :=
  t.columns.map fun column => ⟨column.name, t.keyPosition column.name⟩

/-- The reports of the columns that are in the primary key, in the order of their positions. -/
def reportsByPosition (t : Table) : List ColumnReport :=
  (t.columnReports.filter fun r => decide (0 < r.position)).mergeSort
    fun a b => decide (a.position ≤ b.position)

/-- A table that names no column twice, and whose key is over columns that it has and names
    none twice. -/
structure IsKeyed (t : Table) : Prop where
  columns : Distinct (t.columns.map (·.name))
  key : Distinct t.primaryKey
  known : ∀ key ∈ t.primaryKey, ∃ column ∈ t.columns, sameName column.name key = true

theorem spelling_eq (h : Distinct (t.columns.map (·.name))) {column : Column}
    (hcolumn : column ∈ t.columns) (hsame : sameName column.name name = true) :
    t.spelling name = column.name := by
  have hfound : t.column? name = some column := h.find?_of_sameName hcolumn hsame
  rw [spelling, hfound]
  rfl

theorem keyPosition_eq_iff (h : Distinct t.primaryKey) {n : Nat} :
    t.keyPosition name = n + 1 ↔
      ∃ hn : n < t.primaryKey.length, sameName t.primaryKey[n] name = true := by
  rw [keyPosition]
  constructor
  · intro hposition
    cases hfound : t.primaryKey.findIdx? (sameName · name) with
    | none => simp [hfound] at hposition
    | some m =>
      obtain rfl : m = n := by simpa [hfound] using hposition
      obtain ⟨hn, hsame, -⟩ := List.findIdx?_eq_some_iff_getElem.1 hfound
      exact ⟨hn, hsame⟩
  · rintro ⟨hn, hsame⟩
    -- No name before has been the same, as the key would name it twice.
    have hfirst : ∀ m (hm : m < n), ¬sameName t.primaryKey[m] name = true := by
      intro m hm hsame'
      have hapart := List.pairwise_iff_getElem.1 h m n (hm.trans hn) hn hm
      rw [sameName_congr hsame', sameName_comm, hsame] at hapart
      cases hapart
    rw [List.findIdx?_eq_some_iff_getElem.2 ⟨hn, hsame, hfirst⟩]
    rfl

/-- The reports of the columns of the key, in the order of the key. -/
def keyReports (t : Table) : List ColumnReport :=
  t.primaryKey.zipIdx.map fun (key, n) => ⟨t.spelling key, n + 1⟩

theorem mem_keyReports_iff {r : ColumnReport} :
    r ∈ t.keyReports ↔ ∃ n, ∃ hn : n < t.primaryKey.length, r = ⟨t.spelling t.primaryKey[n], n + 1⟩ := by
  simp only [keyReports, List.mem_map, Prod.exists, List.mk_mem_zipIdx_iff_getElem?,
    List.getElem?_eq_some_iff]
  constructor
  · rintro ⟨_, n, ⟨hn, rfl⟩, rfl⟩
    exact ⟨n, hn, rfl⟩
  · rintro ⟨n, hn, rfl⟩
    exact ⟨_, n, ⟨hn, rfl⟩, rfl⟩

/-- Just the columns of the key are reported with a position, and each with its own. -/
theorem IsKeyed.mem_keyReports_iff (h : t.IsKeyed) {r : ColumnReport} :
    r ∈ t.keyReports ↔ r ∈ t.columnReports ∧ 0 < r.position := by
  rw [Table.mem_keyReports_iff, columnReports, List.mem_map]
  constructor
  · rintro ⟨n, hn, rfl⟩
    obtain ⟨column, hcolumn, hsame⟩ := h.known _ (List.getElem_mem hn)
    have hposition := (keyPosition_eq_iff h.key).2 ⟨hn, (sameName_comm _ _).trans hsame⟩
    exact ⟨⟨column, hcolumn, by rw [hposition, spelling_eq h.columns hcolumn hsame]⟩, n.succ_pos⟩
  · rintro ⟨⟨column, hcolumn, rfl⟩, hpositive⟩
    obtain ⟨n, hposition : t.keyPosition column.name = n + 1⟩ := Nat.exists_eq_add_one.2 hpositive
    obtain ⟨hn, hsame⟩ := (keyPosition_eq_iff h.key).1 hposition
    refine ⟨n, hn, ?_⟩
    rw [hposition, spelling_eq h.columns hcolumn ((sameName_comm _ _).trans hsame)]

theorem pairwise_keyReports (t : Table) : t.keyReports.Pairwise fun a b => a.position < b.position := by
  rw [List.pairwise_iff_getElem]
  intro m n hm hn hmn
  simpa [keyReports] using hmn

/-- Two reports of the key with the same position are the same. -/
theorem eq_of_mem_keyReports {a b : ColumnReport} (ha : a ∈ t.keyReports) (hb : b ∈ t.keyReports)
    (h : a.position = b.position) : a = b := by
  obtain ⟨m, hm, rfl⟩ := mem_keyReports_iff.1 ha
  obtain ⟨n, hn, rfl⟩ := mem_keyReports_iff.1 hb
  obtain rfl : m = n := Nat.succ.inj h
  rfl

theorem IsKeyed.perm_keyReports (h : t.IsKeyed) :
    (t.columnReports.filter fun r => decide (0 < r.position)).Perm t.keyReports := by
  have hnodup : t.columnReports.Nodup := by
    refine List.Nodup.of_map ColumnReport.name ?_
    rw [columnReports, List.map_map]
    exact h.columns.nodup
  have hnodup' : t.keyReports.Nodup := t.pairwise_keyReports.imp fun hab heq => by
    rw [heq] at hab
    exact Nat.lt_irrefl _ hab
  refine (List.perm_ext_iff_of_nodup (hnodup.filter _) hnodup').2 fun r => ?_
  rw [List.mem_filter, decide_eq_true_iff, h.mem_keyReports_iff]

theorem IsKeyed.reportsByPosition_eq (h : t.IsKeyed) : t.reportsByPosition = t.keyReports := by
  have hperm : t.reportsByPosition.Perm t.keyReports := (List.mergeSort_perm _ _).trans h.perm_keyReports
  have hsorted : t.reportsByPosition.Pairwise fun a b => decide (a.position ≤ b.position) = true :=
    List.pairwise_mergeSort
      (fun _ _ _ hab hbc => decide_eq_true ((of_decide_eq_true hab).trans (of_decide_eq_true hbc)))
      (fun a b => by simpa using Nat.le_total a.position b.position) _
  have hsorted' : t.keyReports.Pairwise fun a b => decide (a.position ≤ b.position) = true :=
    t.pairwise_keyReports.imp fun hab => decide_eq_true hab.le
  refine hperm.eq_of_pairwise (fun a b ha hb hab hba => ?_) hsorted hsorted'
  exact eq_of_mem_keyReports (hperm.mem_iff.1 ha) hb
    (Nat.le_antisymm (of_decide_eq_true hab) (of_decide_eq_true hba))

theorem IsKeyed.length_primaryKey_le (h : t.IsKeyed) : t.primaryKey.length ≤ t.columns.length := by
  have hlength := h.perm_keyReports.length_eq.symm.trans_le (List.length_filter_le _ _)
  simpa [keyReports, columnReports] using hlength

theorem keyColumnsFrom_of_distinct (t : Table) {earlier keys : List String} (h : Distinct keys)
    (hearlier : ∀ a ∈ earlier, ∀ b ∈ keys, sameName a b = false) (position : Nat) :
    t.keyColumnsFrom position earlier keys = (keys.zipIdx position).map fun (key, n) =>
      ⟨t.name, t.spelling key, none, min n (t.columns.length + 1)⟩ := by
  induction keys generalizing position earlier with
  | nil => rfl
  | cons key keys ih =>
    obtain ⟨hkey, hkeys⟩ := List.pairwise_cons.1 h
    have hnew : ¬earlier.any (sameName · key) = true := by
      rw [Bool.not_eq_true, List.any_eq_false]
      exact fun a ha => Bool.not_eq_true _ ▸ hearlier a ha key List.mem_cons_self
    rw [keyColumnsFrom, if_neg hnew, List.zipIdx_cons, List.map_cons, ih hkeys]
    exact List.forall_mem_cons.2 ⟨hkey, fun a ha b hb => hearlier a ha b (List.mem_cons_of_mem key hb)⟩

/-- The columns of the key are listed as they are reported, in the order of their positions. -/
theorem IsKeyed.primaryKeyColumns_eq (h : t.IsKeyed) :
    t.primaryKeyColumns = t.reportsByPosition.map fun r => ⟨t.name, r.name, none, r.position⟩ := by
  have hnone : ∀ a ∈ ([] : List String), ∀ b ∈ t.primaryKey, sameName a b = false := by simp
  rw [h.reportsByPosition_eq, keyReports, List.map_map, primaryKeyColumns,
    keyColumnsFrom_of_distinct t h.key hnone, List.zipIdx_succ, List.map_map]
  refine List.map_congr_left fun x hx => ?_
  -- A position goes no further than the number of columns.
  have hn : x.2 < t.primaryKey.length := by simpa using List.snd_lt_of_mem_zipIdx hx
  have hle : x.2 + 1 ≤ t.columns.length + 1 := Nat.succ_le_succ (hn.le.trans h.length_primaryKey_le)
  simp [Nat.min_eq_left hle]

/-- The columns of a key, put in order by their reported positions, are in the order of the key. -/
theorem IsKeyed.map_reportsByPosition (h : t.IsKeyed) :
    t.reportsByPosition.map (·.name) = t.keyNames := by
  rw [← t.map_primaryKeyColumns, h.primaryKeyColumns_eq, List.map_map]
  rfl

end Table

/-! ## What is reported -/

namespace Schema

theorem table?_eq (h : Distinct (s.tables.map (·.name))) (hp : p ∈ s.tables)
    (hsame : sameName p.name name = true) : s.table? name = some p :=
  h.find?_of_sameName hp hsame

/-- The column that is meant at a position is the one that the other table's key has there. -/
theorem referencedColumn_eq (h : Distinct (s.tables.map (·.name))) (hp : p ∈ s.tables)
    (hsame : sameName p.name k.referencedTable = true) (himplicit : k.references? = none) {n : Nat}
    (hn : n < p.keyNames.length) : s.referencedColumn k n = p.keyNames[n] := by
  have hkey : p.primaryKeyColumns[n]?.map (·.column) = some p.keyNames[n] := by
    rw [← List.getElem?_map, p.map_primaryKeyColumns, List.getElem?_eq_getElem hn]
  simp only [referencedColumn, himplicit, table?_eq h hp hsame, Option.bind_some, hkey, Option.getD_some]

end Schema

/-- Rows that report a foreign key by the primary key of the other table: a row for each position,
    counted from one, which pairs the columns that the two keys have there. -/
structure ReportsKey (t p : Table) (k : ForeignKey) (rows : List ForeignKeyColumn) : Prop where
  length_eq : rows.length = k.columns.length
  getElem?_eq : ∀ n (_ : n < k.columns.length) (_ : n < p.keyNames.length),
    rows[n]? = some {
      constraint? := none
      table := t.name
      column := t.spelling k.columns[n]
      referencedTable := k.referencedTable
      referencedColumn := p.keyNames[n]
      position := n + 1
      onDelete := declaredAction k.onDelete }

namespace Schema

theorem reportsKey (h : Distinct (s.tables.map (·.name))) (t : Table) (hp : p ∈ s.tables)
    (hsame : sameName p.name k.referencedTable = true) (himplicit : k.references? = none) :
    ReportsKey t p k (s.foreignKeyColumns t k) where
  length_eq := by simp [foreignKeyColumns]
  getElem?_eq n hn hn' := by
    simp [foreignKeyColumns, hn, referencedColumn_eq h hp hsame himplicit hn']

/-- The keys of a table are reported with the last declared first, and after and before those of the
    tables that are listed around it. -/
theorem importedKeys_eq (h : Distinct (s.tables.map (·.name))) (ht : t ∈ s.tables)
    (hvisible : isHidden t.name = false) {earlier later : List ForeignKey}
    (hkeys : t.foreignKeys = earlier ++ k :: later) {filter? : Option String}
    (hpasses : passes filter? t.name = true) :
    ∃ before after, s.importedKeys filter? =
      before ++ (later.reverse.flatMap (s.foreignKeyColumns t) ++ s.foreignKeyColumns t k ++
        earlier.reverse.flatMap (s.foreignKeyColumns t)) ++ after := by
  obtain ⟨before, after, hlisted⟩ :=
    List.append_of_mem ((mem_listedTables_iff h).2 ⟨ht, hvisible, hpasses⟩)
  refine ⟨before.flatMap fun t => t.foreignKeys.reverse.flatMap (s.foreignKeyColumns t),
    after.flatMap fun t => t.foreignKeys.reverse.flatMap (s.foreignKeyColumns t), ?_⟩
  rw [importedKeys, hlisted]
  simp [hkeys]

/-- The rows of a key stand together among those that refer to its table. -/
theorem infix_crossReference (h : Distinct (s.tables.map (·.name))) (ht : t ∈ s.tables)
    (hvisible : isHidden t.name = false) (hk : k ∈ t.foreignKeys) {parent? filter? : Option String}
    (hparent : passes parent? k.referencedTable = true) (hpasses : passes filter? t.name = true) :
    s.foreignKeyColumns t k <:+: s.crossReference parent? filter? := by
  have hrows : (s.foreignKeyColumns t k).filter (passes parent? ·.referencedTable) =
      s.foreignKeyColumns t k := by
    refine List.filter_eq_self.2 fun row hrow => ?_
    obtain ⟨_, -, rfl⟩ := List.mem_map.1 hrow
    exact hparent
  obtain ⟨earlier, later, hkeys⟩ := List.append_of_mem hk
  obtain ⟨before, after, himported⟩ := importedKeys_eq h ht hvisible hkeys hpasses
  have hinfix : s.foreignKeyColumns t k <:+: s.importedKeys filter? := by
    rw [himported]
    exact (List.infix_append _ _ _).trans (List.infix_append _ _ _)
  have hfiltered := hinfix.filter (passes parent? ·.referencedTable)
  rwa [hrows] at hfiltered

end Schema

/-! ## The key is found -/

section Found

variable {δ : Type} {rule : CaseRule} {i : Inspector} {rows : List ForeignKeyColumn}
  {table referenced : String} {columns references : List String}

/-- Names that are, when they are folded, those of two tables, of the columns of a foreign key of the
    first and of the primary key of the second. -/
structure Means (rule : CaseRule) (t p : Table) (k : ForeignKey) (table referenced : String)
    (columns references : List String) : Prop where
  table : sameName (rule.apply table) t.name = true
  referenced : sameName (rule.apply referenced) p.name = true
  columns : List.Forall₂ (fun asked column => sameName (rule.apply asked) column = true) columns k.columns
  references :
    List.Forall₂ (fun asked key => sameName (rule.apply asked) key = true) references p.keyNames

/-- Names that folding leaves the same mean what they name. -/
theorem Means.of_forall (ht : sameName (rule.apply t.name) t.name = true)
    (hp : sameName (rule.apply p.name) p.name = true)
    (hcolumns : ∀ column ∈ k.columns, sameName (rule.apply column) column = true)
    (hkeys : ∀ key ∈ p.keyNames, sameName (rule.apply key) key = true) :
    Means rule t p k t.name p.name k.columns p.keyNames :=
  ⟨ht, hp, List.forall₂_same.2 hcolumns, List.forall₂_same.2 hkeys⟩

theorem Means.verbatim (t p : Table) (k : ForeignKey) :
    Means .verbatim t p k t.name p.name k.columns p.keyNames := by
  have hsame (name : String) : sameName (CaseRule.verbatim.apply name) name = true := by
    rw [sameName_iff, CaseRule.apply, String.toList_ofList]
    rfl
  exact .of_forall (hsame _) (hsame _) (fun _ _ => hsame _) fun _ _ => hsame _

/-- The rows of a key join the pairs of its columns one after the other. -/
theorem ReportsKey.joins (h : ReportsKey t p k rows) (hlength : k.columns.length = p.keyNames.length)
    (hmeans : Means rule t p k table referenced columns references) :
    List.Forall₂ (fun row pair => row.joins pair = true) rows (rule.pairs columns references) := by
  have hcolumns := hmeans.columns.length_eq
  have hreferences := hmeans.references.length_eq
  refine List.forall₂_iff_get.2 ⟨by simp [CaseRule.pairs, h.length_eq, ← hlength, hcolumns, hreferences],
    fun n hrow hpair => ?_⟩
  have hn : n < k.columns.length := h.length_eq ▸ hrow
  have hn' : n < p.keyNames.length := hlength ▸ hn
  have hreported := h.getElem?_eq n hn hn'
  rw [List.getElem?_eq_getElem hrow, Option.some_inj] at hreported
  have hcolumn := hmeans.columns.get (hcolumns ▸ hn) hn
  have hreference := hmeans.references.get (hreferences ▸ hn') hn'
  simp only [List.get_eq_getElem] at hcolumn hreference ⊢
  simp only [hreported, CaseRule.pairs, List.getElem_zip, List.getElem_map, ForeignKeyColumn.joins,
    hreference, Bool.and_true]
  rw [sameName_congr hcolumn, sameName_comm]
  exact t.sameName_spelling _

/-- An inspector of an open connection hears which keys are reported. -/
theorem hears (engine : Engine δ) (data : δ) (hhas : i.endpoint.hasCatalog = true)
    (learned : Option CaseRule) (table referenced : String)
    (hrule : (i.options.case?.or learned).getD .verbatim = rule) :
    i.Hears (connection engine) learned ⟨data, false⟩ table referenced rule
      ((engine.schema data).crossReference (some (rule.apply referenced)) (some (rule.apply table))) := by
  subst hrule
  obtain ⟨⟨driverName, product, hasCatalog⟩, dialect, ⟨quotes, case?⟩⟩ := i
  obtain rfl : hasCatalog = true := hhas
  cases case? with
  | some rule => exact ⟨rfl, rfl, rfl⟩
  | none => cases learned <;> exact ⟨rfl, rfl, rfl⟩

/-- A foreign key that states no columns is reported by the primary key of the other table, in the order
    of that key, and is found by the columns of the two keys, whatever other keys the table has. -/
theorem implicit_reference (engine : Engine δ) (data : δ) (t p : Table) (k : ForeignKey)
    (earlier later : List ForeignKey) (hapart : Distinct ((engine.schema data).tables.map (·.name)))
    (ht : t ∈ (engine.schema data).tables) (hvisible : isHidden t.name = false)
    (hkeys : t.foreignKeys = earlier ++ k :: later) (hp : p ∈ (engine.schema data).tables)
    (hrefers : sameName p.name k.referencedTable = true) (himplicit : k.references? = none)
    (hlength : k.columns.length = p.keyNames.length) :
    let rowsOf := (engine.schema data).foreignKeyColumns t
    -- The columns of the key are those with a reported position, in the order of these positions.
    (p.IsKeyed → p.reportsByPosition.map (·.name) = p.keyNames) ∧
      ReportsKey t p k (rowsOf k) ∧
      -- The rows are reported with those of the table's other keys, the last declared first.
      (∀ filter?, passes filter? t.name = true →
        (∃ before after, (answer engine ⟨data, false⟩ (.getImportedKeys filter?)).1 =
          .ok (before ++ (later.reverse.flatMap rowsOf ++ rowsOf k ++ earlier.reverse.flatMap rowsOf) ++
            after)) ∧
        ∀ parent?, passes parent? k.referencedTable = true → ∃ before after,
          (answer engine ⟨data, false⟩ (.getCrossReference parent? filter?)).1 =
            .ok (before ++ rowsOf k ++ after)) ∧
      ∀ (i : Inspector) (learned : Option CaseRule) (rule : CaseRule), i.endpoint.hasCatalog = true →
        (i.options.case?.or learned).getD .verbatim = rule → k.columns ≠ [] →
          (rule = .verbatim →
            ((i.hasForeignKey t.name p.name k.columns p.keyNames).transcript (connection engine) learned
              ⟨data, false⟩).result.1 = .ok true) ∧
          ∀ table referenced columns references, Means rule t p k table referenced columns references →
            ((i.hasForeignKey table referenced columns references).transcript (connection engine) learned
              ⟨data, false⟩).result.1 = .ok true := by
  intro rowsOf
  have hk : k ∈ t.foreignKeys := hkeys ▸ List.mem_append_right _ List.mem_cons_self
  have hreports := Schema.reportsKey hapart t hp hrefers himplicit
  refine ⟨Table.IsKeyed.map_reportsByPosition, hreports, fun filter? hpasses => ⟨?_, ?_⟩, ?_⟩
  · obtain ⟨before, after, himported⟩ := Schema.importedKeys_eq hapart ht hvisible hkeys hpasses
    exact ⟨before, after, congrArg Except.ok himported⟩
  · intro parent? hparent
    obtain ⟨before, after, hcross⟩ :=
      Schema.infix_crossReference hapart ht hvisible hk hparent hpasses
    exact ⟨before, after, congrArg Except.ok hcross.symm⟩
  · intro i learned rule hhas hrule hne
    have hfound : ∀ table referenced columns references,
        Means rule t p k table referenced columns references →
          ((i.hasForeignKey table referenced columns references).transcript (connection engine) learned
            ⟨data, false⟩).result.1 = .ok true := by
      intro table referenced columns references hmeans
      have hheard := hears engine data hhas learned table referenced hrule
      -- The tables that are asked for are the two, so the rows of the key are among those heard.
      have hpasses : passes (some (rule.apply table)) t.name = true :=
        (sameName_comm _ _).trans hmeans.table
      have hparent : passes (some (rule.apply referenced)) k.referencedTable = true :=
        (sameName_comm _ _).trans ((sameName_congr hmeans.referenced _).trans hrefers)
      obtain ⟨before, after, hrows⟩ :=
        Schema.infix_crossReference hapart ht hvisible hk hparent hpasses
      rw [← hrows] at hheard
      have hcolumns := hmeans.columns.length_eq
      refine hheard.hasForeignKey_of_joins ?_ ?_ (hreports.joins hlength hmeans)
      · rw [hcolumns, hlength, hmeans.references.length_eq]
      · rwa [← List.length_pos_iff, hcolumns, List.length_pos_iff]
    refine ⟨?_, hfound⟩
    rintro rfl
    exact hfound _ _ _ _ (.verbatim t p k)

end Found

/-! ### A key in another order than the table -/

/-- A table that has the columns of its key in another order. -/
def hosts : Table where
  name := "hosts"
  columns := [⟨"host_id", "INTEGER", true, none⟩, ⟨"host_name", "TEXT", false, none⟩,
    ⟨"cluster_id", "INTEGER", true, none⟩]
  primaryKey := ["cluster_id", "host_id"]

/-- A foreign key that means the primary key of the hosts. -/
def toHosts : ForeignKey where
  columns := ["cluster", "host"]
  referencedTable := "HOSTS"

/-- A table with this key between two others: one has part of its pairs, and one pairs its columns the
    other way around. -/
def hostState : Table where
  name := "hoststate"
  columns := [⟨"host", "INTEGER", true, none⟩, ⟨"cluster", "INTEGER", true, none⟩]
  foreignKeys := [{ columns := ["host"], referencedTable := "hosts", references? := some ["host_id"] },
    toHosts,
    { columns := ["host", "cluster"], referencedTable := "hosts",
      references? := some ["cluster_id", "host_id"] }]

/-- Hosts, and their states, which refer to them. -/
def hostSchema : Schema where
  tables := [hosts, hostState]

theorem isKeyed_hosts : hosts.IsKeyed where
  columns := by
    rw [Distinct]
    decide
  key := by
    rw [Distinct]
    decide
  known := by decide

/-- The key is reported, and found, with the columns of the hosts' key in the order of that key. -/
theorem implicit_reference_hostState :
    let i : Inspector := ⟨endpoint, .generic, {}⟩
    hosts.keyNames = ["cluster_id", "host_id"] ∧
      hosts.reportsByPosition.map (·.name) = ["cluster_id", "host_id"] ∧
      ReportsKey hostState hosts toHosts (hostSchema.foreignKeyColumns hostState toHosts) ∧
      ((i.hasForeignKey "hoststate" "hosts" ["cluster", "host"] ["cluster_id", "host_id"]).transcript
        (connection declaredOnly) none ⟨hostSchema, false⟩).result.1 = .ok true := by
  intro i
  have hnames : hosts.keyNames = ["cluster_id", "host_id"] := by decide +kernel
  have hapart : Distinct (hostSchema.tables.map (·.name)) := by
    rw [Distinct]
    decide
  have hvisible : isHidden hostState.name = false := by decide +kernel
  obtain ⟨hpositions, hreports, -, hfound⟩ := implicit_reference declaredOnly hostSchema hostState hosts
    toHosts (hostState.foreignKeys.take 1) (hostState.foreignKeys.drop 2) hapart (.tail _ (.head _))
    hvisible rfl (.head _) (by decide) rfl (by rw [hnames]; rfl)
  refine ⟨hnames, (hpositions isKeyed_hosts).trans hnames, hreports, ?_⟩
  have hhosts := (hfound i none .verbatim rfl rfl (List.cons_ne_nil _ _)).1 rfl
  rwa [hnames] at hhosts

end SchemaChange.Sqlite
