import SchemaChange.Proofs.Catalog.Repetition
import SchemaChange.Proofs.Text.Casing

/-!
# Sets of columns

Whether a table has a column is asked of the catalog under the folded name, and whether it has a set of
them is read off the list of all its columns, ignoring the case of letters in all of Unicode. A column
that is found by itself is in the list (`Catalog.listsColumn_of_finds`), so a set is there if each column
of it is. The list may have a column all the same that is not found by itself: one that is stored in a way
its name is not folded to, or whose name folding changes beyond ASCII. A primary key goes by the list.

* `Edit.perform_columnSet`: what is found one by one and in a set, and when a primary key is added;
* `Inspector.columnSet_differs`: a key that is sent over a column that is not found.
-/

namespace SchemaChange

namespace Catalog

variable {k : Catalog} {rule : CaseRule} {table name : String}

/-- Whether a column is found under a name by itself: it passes for the folded name, and that is still
    the name asked for. -/
def finds (k : Catalog) (rule : CaseRule) (table name : String) : Bool :=
  Text.sameName (rule.apply name) name && (k.column? (rule.apply table) (rule.apply name)).isSome

/-- Whether the columns of a table have one of the name among them, ignoring case in all of Unicode. -/
def listsColumn (k : Catalog) (rule : CaseRule) (table name : String) : Bool :=
  k.columns.any fun x => k.passes (some (rule.apply table)) x.table &&
    CaseRule.upper.apply x.name == CaseRule.upper.apply name

/-- The columns of a table have names of ASCII characters, and where filters tell capitals from small
    letters these are stored as all names are folded. -/
def FoldsColumns (k : Catalog) (rule : CaseRule) (table : String) : Prop :=
  ∀ x ∈ k.columns, k.passes (some (rule.apply table)) x.table = true →
    Text.IsAscii x.name.toList ∧
      (k.exact = true → rule ≠ .verbatim ∧ rule.apply x.name = x.name)

/-- What is found by itself is in the list. -/
theorem listsColumn_of_finds (h : k.finds rule table name = true) :
    k.listsColumn rule table name = true := by
  obtain ⟨hsame, hfound⟩ := Bool.and_eq_true_iff.1 h
  obtain ⟨x, hx, hpasses⟩ := List.find?_isSome.1 hfound
  obtain ⟨htable, hname⟩ := Bool.and_eq_true_iff.1 hpasses
  refine List.any_eq_true.2 ⟨x, hx, Bool.and_eq_true_iff.2 ⟨htable, beq_iff_eq.2 ?_⟩⟩
  have hstored : Text.sameName x.name name = true := by
    rw [sameName_of_passes hname]
    exact hsame
  exact CaseRule.apply_eq_of_sameName nofun hstored

/-- What is in the list is found by itself if only ASCII letters can differ, and none do where filters
    tell them apart. -/
theorem finds_of_listsColumn (hfolds : k.FoldsColumns rule table) (hascii : Text.IsAscii name.toList)
    (h : k.listsColumn rule table name = true) : k.finds rule table name = true := by
  obtain ⟨x, hx, hlisted⟩ := List.any_eq_true.1 h
  obtain ⟨htable, hupper⟩ := Bool.and_eq_true_iff.1 hlisted
  obtain ⟨hxascii, hexact⟩ := hfolds x hx htable
  have hsame : Text.sameName x.name name = true :=
    CaseRule.sameName_of_apply_eq (CaseRule.sameName_apply _ hxascii)
      (CaseRule.sameName_apply _ hascii) (beq_iff_eq.1 hupper)
  refine Bool.and_eq_true_iff.2 ⟨rule.sameName_apply hascii, ?_⟩
  refine List.find?_isSome.2 ⟨x, hx, Bool.and_eq_true_iff.2 ⟨htable, ?_⟩⟩
  rw [passes, Option.all_some]
  split
  · -- An exact filter asks for what folding the stored name leaves as it is.
    obtain ⟨hrule, hstored⟩ := hexact ‹_›
    rw [beq_iff_eq, ← CaseRule.apply_eq_of_sameName hrule hsame, hstored]
  · rw [Text.sameName_congr (rule.sameName_apply hascii), Text.sameName_comm]
    exact hsame

theorem listsColumn_eq_finds (hfolds : k.FoldsColumns rule table) (hascii : Text.IsAscii name.toList) :
    k.listsColumn rule table name = k.finds rule table name :=
  Bool.eq_iff_iff.2 ⟨finds_of_listsColumn hfolds hascii, listsColumn_of_finds⟩

end Catalog

variable {σ : Type} {c : Connection σ} {catalog : σ → Catalog} {k : Catalog}

namespace Finds

variable {i : Inspector} (hshows : c.Shows catalog) (hhas : i.endpoint.hasCatalog = true)

include hshows hhas

/-- A set of columns is found if each is in the list of all columns. -/
theorem columnsExist (table : String) (names : List String) :
    Finds c catalog k (i.columnsExist table names)
      (names.all (k.listsColumn (k.ruleFor i) table)) := by
  have hfolded : Finds c catalog k (some <$> i.fold table) (some ((k.ruleFor i).apply table)) :=
    (fold hshows hhas table).bind (.pure _)
  have hcolumns : Finds c catalog k (i.columns (some table))
      (k.columns.filter fun x => k.passes (some ((k.ruleFor i).apply table)) x.table &&
        k.passes none x.name) :=
    hfolded.bind (inCatalog hshows hhas _ rfl rfl)
  have hlisted (name : String) : k.listsColumn (k.ruleFor i) table name =
      (k.columns.filter fun x => k.passes (some ((k.ruleFor i).apply table)) x.table &&
        k.passes none x.name).any fun x =>
          CaseRule.upper.apply x.name == CaseRule.upper.apply name := by
    simp only [Catalog.listsColumn, List.any_filter, Catalog.passes, Option.all_none, Bool.and_true]
  simp only [funext hlisted]
  exact hcolumns.bind (.pure _)

/-- A table is keyed if a column of a key is listed for it. -/
theorem hasAnyPrimaryKey (table : String) :
    Finds c catalog k (i.hasPrimaryKey table none)
      (k.primaryKeys.any fun row => k.passes (some ((k.ruleFor i).apply table)) row.table) := by
  refine (primaryKeyColumns hshows hhas table).bind ?_
  show Finds c catalog k (Pure.pure (!List.isEmpty _)) _
  have hempty (rows : List PrimaryKeyColumn) (p : PrimaryKeyColumn → Bool) :
      (!(((rows.filter p).mergeSort fun a b => a.position ≤ b.position).map (·.column)).isEmpty) =
        rows.any p := by
    rw [List.isEmpty_map, (List.mergeSort_perm _ _).isEmpty_eq, Bool.eq_iff_iff]
    simp
  rw [hempty]
  exact .pure _

end Finds

/-- A primary key is sent if the table has none and all columns of the key are in its list. -/
theorem Settles.addPrimaryKey {e : Editor} {copies keyed found ignoring : Bool} {table key sql : String}
    {names : List String} (hshows : c.Shows catalog) (hhas : e.inspector.endpoint.hasCatalog = true)
    (hmade : (k.builderFor e.inspector).addConstraint ⟨table, key, names, .primaryKey⟩ = .ok sql)
    (hkeyed : Finds c catalog k (e.inspector.hasPrimaryKey table none) keyed)
    (hfound : Finds c catalog k (e.inspector.columnsExist table names) found) :
    Settles c catalog k copies (e.addPrimaryKey table key names ignoring)
      (Skips ignoring (keyed || !found) [sql]) := by
  refine .build hshows hhas hmade (.after hkeyed ?_)
  cases keyed with
  | true => exact .skip [sql]
  | false => exact .after hfound (.runUnless (!found) sql)

/-- What columns are found by themselves and in a set. A set of columns that are all found is found; of
    ASCII names, and where columns are stored as names are folded, no other set is. A primary key is sent
    exactly if the table has none and the set of its columns is found. -/
theorem Edit.perform_columnSet (e : Editor) (ignoring : Bool) (c : Connection σ)
    (catalog : σ → Catalog) (learned : Option CaseRule) (s : σ) (hshows : c.Shows catalog)
    (hhas : e.inspector.endpoint.hasCatalog = true) (hknows : (catalog s).Knows learned)
    (table : String) (names : List String) :
    let k := catalog s
    let rule := k.ruleFor e.inspector
    let found := names.all (k.finds rule table)
    let listed := names.all (k.listsColumn rule table)
    let keyed := k.primaryKeys.any fun row => k.passes (some (rule.apply table)) row.table
    (∀ name, ((e.inspector.columnExists table name).transcript c learned s).result.1 =
        .ok (k.finds rule table name)) ∧
      ((e.inspector.columnsExist table names).transcript c learned s).result.1 = .ok listed ∧
      (found = true → listed = true) ∧
      (k.FoldsColumns rule table → (∀ name ∈ names, Text.IsAscii name.toList) → listed = found) ∧
      ∀ key sql, (k.builderFor e.inspector).addConstraint ⟨table, key, names, .primaryKey⟩ = .ok sql →
        let t := ((addPrimaryKey table key names).perform e ignoring).transcript c learned s
        Skips ignoring (keyed || !listed) [sql] (sent false t.exchanges) t.result.1 := by
  intro k rule found listed keyed
  have hlisted : Finds c catalog k (e.inspector.columnsExist table names) listed :=
    .columnsExist hshows hhas table names
  have hkeyed : Finds c catalog k (e.inspector.hasPrimaryKey table none) keyed :=
    .hasAnyPrimaryKey hshows hhas table
  refine ⟨fun name => ?_, hlisted.transcript hknows, fun hfound => ?_, fun hfolds hascii => ?_,
    fun key sql hmade => ?_⟩
  · exact (Finds.columnExists hshows hhas table name).transcript hknows
  · rw [List.all_eq_true] at hfound ⊢
    exact fun name hname => Catalog.listsColumn_of_finds (hfound name hname)
  · rw [Bool.eq_iff_iff, List.all_eq_true, List.all_eq_true]
    exact forall₂_congr fun name hname => by
      rw [Catalog.listsColumn_eq_finds hfolds (hascii name hname)]
  · exact ((Settles.addPrimaryKey hshows hhas hmade hkeyed hlisted).transcript hknows rfl).1

/-! ## A table of one column -/

namespace Catalog

/-- A table of one column, as a database that folds to capitals lists it. -/
def oneColumn (name : String) : Catalog where
  rule := .upper
  exact := true
  tables := [⟨"T", .table⟩]
  columns := [⟨"T", name, 1, "INTEGER", .integer, true, none, none⟩]

/-- An editor that learns the case rule from the catalog. -/
def oneColumnEditor : Editor where
  inspector := ⟨⟨"driver", "product", true⟩, .generic, {}⟩
  config := { driver := "driver", url := "url" }

end Catalog

open Catalog in
/-- A column that is stored as its name is folded is found both ways, and the key over it is sent. -/
theorem Edit.perform_columnSet_folded :
    let t := ((addPrimaryKey "t" "k" ["a"]).perform oneColumnEditor false).transcript connection none
      (oneColumn "A")
    ((oneColumnEditor.inspector.columnsExist "t" ["a"]).transcript connection none
        (oneColumn "A")).result.1 = .ok (["a"].all ((oneColumn "A").finds .upper "t")) ∧
      Skips false false ["ALTER TABLE t ADD CONSTRAINT k PRIMARY KEY (a)"] (sent false t.exchanges)
        t.result.1 := by
  obtain ⟨-, hlisted, -, hagree, hkey⟩ := perform_columnSet oneColumnEditor false connection id none
    (oneColumn "A") Catalog.connection_shows rfl (knows_none _) "t" ["a"]
  have hfolds : (oneColumn "A").FoldsColumns .upper "t" := by
    refine List.forall_mem_singleton.2 fun _ => ⟨by decide, fun _ => ⟨nofun, rfl⟩⟩
  rw [hagree hfolds (by decide)] at hlisted
  exact ⟨hlisted, hkey "k" _ rfl⟩

open Catalog in
/-- A column that is stored in small letters is not found by itself, and it is in the list: the key over
    it is sent. -/
theorem Inspector.columnSet_differs :
    let t := ((Edit.addPrimaryKey "T" "PK" ["a"]).perform oneColumnEditor false).transcript connection
      none (oneColumn "a")
    ((oneColumnEditor.inspector.columnExists "T" "a").transcript connection none
        (oneColumn "a")).result.1 = .ok false ∧
      ((oneColumnEditor.inspector.columnsExist "T" ["a"]).transcript connection none
        (oneColumn "a")).result.1 = .ok true ∧
      (sent false t.exchanges).map Exchange.request =
        [.execute "ALTER TABLE T ADD CONSTRAINT PK PRIMARY KEY (a)" []] :=
  ⟨rfl, rfl, by decide +kernel⟩

end SchemaChange
