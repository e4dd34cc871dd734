import SchemaChange.Proofs.Build.Alike
import SchemaChange.Proofs.Statement.Marks

/-!
# The columns of a statement

The lists of columns in a statement are read off its text: of a table that is created, the first words of
its definitions and the list in brackets of its key; of a constraint, an index or a row, the lists in
brackets. What is read are the columns asked for as they are written by themselves, so what is known of
names that are written in this way is known of the columns of the statement.

* `Builder.createTable_tellsApart`: the columns of a table and of its key;
* `Builder.lists_told_apart`: no list names a column twice, and which ones are written alike all the same;
* `Builder.key_defined_iff`: which columns of a quoted key are among those that its table defines.
-/

namespace SchemaChange

variable {d : Dialect}

/-- The lists in the outermost brackets of a text. -/
def bracketedLists (d : Dialect) (text : String) : List (List String) :=
  (bodies d text).map (items d)

/-- The first word of a text. -/
def firstWord (d : Dialect) (text : String) : String :=
  (words d text).headD ""

/-- The columns that the first `count` items in brackets define. -/
def definedColumns (d : Dialect) (count : Nat) (sql : String) : List String :=
  ((bracketedLists d sql).flatten.take count).map (firstWord d)

/-- The columns that the items after the first `count` ones have in brackets of their own. -/
def keyColumns (d : Dialect) (count : Nat) (sql : String) : List String :=
  ((bracketedLists d sql).flatten.drop count).flatMap fun item => (bracketedLists d item).flatten

namespace Builder

variable {b : Builder} {table : TableSpec} {column : ColumnSpec} {constraint : ConstraintSpec}
  {owner tableName name written sql : String} {names columns : List String}

/-! ## Lists in brackets -/

theorem identList_tellsApart (h : b.identList owner names = .ok written) :
    b.TellsApart names (items b.dialect written) := by
  obtain ⟨columns, hcolumns, -, hitems⟩ := identList_items h
  rw [identList] at h
  obtain ⟨-, h⟩ := unless_ok h
  obtain ⟨_, hdistinct, -⟩ := bind_ok h
  rw [hitems]
  exact tellsApart (ensureDistinct_ok_iff.1 hdistinct) hcolumns

/-- The one list in the brackets of a text. -/
theorem bracketedLists_of_bodies {text list : String} (h : bodies d text = [list]) :
    bracketedLists d text = [items d list] := by
  rw [bracketedLists, h, List.map_singleton]

/-- A definition begins with the name of its column. -/
theorem columnDefinition_words (h : b.columnDefinition column = .ok written) :
    ∃ name rest, b.ident column.name = .ok name ∧ words b.dialect written = name :: rest := by
  obtain ⟨name, hname, h⟩ := bind_ok h
  obtain ⟨typeName, -, h⟩ := bind_ok h
  obtain ⟨default, -, h⟩ := bind_ok h
  cases h
  simp only [String.append_assoc]
  rw [← String.append_assoc, ident_words hname]
  exact ⟨name, _, hname, rfl⟩

theorem columnDefinition_firstWord (h : b.columnDefinition column = .ok written) :
    b.ident column.name = .ok (firstWord b.dialect written) := by
  obtain ⟨name, rest, hname, hwords⟩ := columnDefinition_words h
  rw [firstWord, hwords]
  exact hname

theorem primaryKeyItem_tellsApart {key : List String} (h : b.primaryKeyItem table = .ok key) :
    b.TellsApart table.primaryKey (key.flatMap fun item => (bracketedLists b.dialect item).flatten) := by
  rw [primaryKeyItem] at h
  split at h
  · rename_i hempty
    cases h
    rw [List.isEmpty_iff.1 hempty]
    exact tellsApart .nil rfl
  · obtain ⟨list, hlist, h⟩ := bind_ok h
    cases h
    have hbodies : bodies b.dialect ("PRIMARY KEY (" ++ list ++ ")") = [list] :=
      bodies_word_bracketed (s := "PRIMARY KEY ") rfl (identList_phrase hlist)
    simpa [bracketedLists_of_bodies hbodies] using identList_tellsApart hlist

/-- The columns that a table defines and those of its key are read from its text. -/
theorem createTable_tellsApart (h : b.createTable table = .ok sql) :
    b.TellsApart (table.columns.map (·.name))
        (definedColumns b.dialect table.columns.length sql) ∧
      b.TellsApart table.primaryKey (keyColumns b.dialect table.columns.length sql) := by
  obtain ⟨hvalid, _, definitions, key, -, hdefinitions, hkey, hsql, hbodies, hitems⟩ :=
    createTable_parts h
  have hlist : (bracketedLists b.dialect sql).flatten = definitions ++ key := by
    rw [bracketedLists_of_bodies hbodies, List.flatten_singleton, hitems]
  -- The key comes after as many definitions as there are columns.
  have hlength := (mapM_ok hdefinitions).length_eq
  constructor
  · rw [definedColumns, hlist, List.take_left' hlength.symm]
    exact tellsApart (TableSpec.of_validate hvalid).2.1
      (mapM_ok_map columnDefinition_firstWord hdefinitions)
  · rw [keyColumns, hlist, List.drop_left' hlength.symm]
    exact primaryKeyItem_tellsApart hkey

theorem addConstraint_tellsApart (h : b.addConstraint constraint = .ok sql) :
    List.Forall₂ b.TellsApart constraint.columnLists (bracketedLists b.dialect sql) := by
  obtain ⟨columns, hcolumns, hreads⟩ := addConstraint_reads h
  obtain ⟨_, hvalid, -⟩ := bind_ok h
  have hdistinct := ConstraintSpec.distinct_of_validate hvalid
  rw [ConstraintSpec.columnLists] at hdistinct ⊢
  cases hkind : constraint.kind with
  | primaryKey | unique =>
    rw [hkind] at hreads hdistinct
    rw [bracketedLists, hreads]
    exact .cons (tellsApart (hdistinct _ List.mem_cons_self) hcolumns) .nil
  | foreignKey _ referencedColumns _ =>
    rw [hkind] at hreads hdistinct
    obtain ⟨references, hreferences, hlists, -⟩ := hreads
    obtain ⟨hown, hreferenced⟩ := List.forall_mem_cons.1 hdistinct
    rw [bracketedLists, hlists]
    exact .cons (tellsApart hown hcolumns)
      (.cons (tellsApart (List.forall_mem_singleton.1 hreferenced) hreferences) .nil)

theorem createIndex_tellsApart {unique : Bool}
    (h : b.createIndex tableName name columns unique = .ok sql) :
    List.Forall₂ b.TellsApart [columns] (bracketedLists b.dialect sql) := by
  obtain ⟨index, hindex, h⟩ := bind_ok h
  obtain ⟨tableText, htable, h⟩ := bind_ok h
  obtain ⟨list, hlist, h⟩ := bind_ok h
  cases h
  have hunique : (if unique then "UNIQUE " else "").toList.all isWordChar = true := by
    cases unique <;> rfl
  have hbodies : bodies b.dialect ("CREATE " ++ (if unique then "UNIQUE " else "") ++ "INDEX " ++
      index ++ " ON " ++ tableText ++ " (" ++ list ++ ")") = [list] := by
    have heq (kind : String) : "CREATE " ++ kind ++ "INDEX " ++ index ++ " ON " ++ tableText ++ " (" ++
        list ++ ")" = "CREATE " ++ (kind ++ ("INDEX " ++ (index ++ (" ON " ++ (tableText ++ (" " ++
          "(" ++ list ++ ")")))))) :=
      String.toList_injective (by simp)
    rw [heq, bodies_word_append rfl, bodies_word_append hunique, bodies_word_append rfl,
      ident_bodies hindex, bodies_word_append rfl, ident_bodies htable,
      bodies_word_bracketed rfl (identList_phrase hlist)]
  rw [bracketedLists_of_bodies hbodies]
  exact .cons (identList_tellsApart hlist) .nil

/-- The first list of a row that is inserted is that of its columns. -/
theorem insertRow_tellsApart {values : List Value} {statement : Statement}
    (h : b.insertRow tableName columns values = .ok statement) :
    List.Forall₂ b.TellsApart [columns] ((bracketedLists b.dialect statement.sql).take 1) := by
  obtain ⟨-, -, written, hwritten, -, hlists⟩ := insertRow_insertsValues h
  rw [insertRow] at h
  obtain ⟨-, h⟩ := unless_ok h
  obtain ⟨_, -, h⟩ := bind_ok h
  obtain ⟨_, hlist, -⟩ := bind_ok h
  rw [bracketedLists, hlists]
  exact .cons (tellsApart (identList_tellsApart hlist).distinct hwritten) .nil

/-- No list of columns in a statement names one twice, and two are written alike only if they are quoted
    and folded to the same parts. -/
theorem lists_told_apart (b : Builder) :
    (∀ table sql, b.createTable table = .ok sql →
      b.TellsApart (table.columns.map (·.name))
          (definedColumns b.dialect table.columns.length sql) ∧
        b.TellsApart table.primaryKey (keyColumns b.dialect table.columns.length sql)) ∧
    (∀ constraint sql, b.addConstraint constraint = .ok sql →
      List.Forall₂ b.TellsApart constraint.columnLists (bracketedLists b.dialect sql)) ∧
    (∀ table name columns unique sql, b.createIndex table name columns unique = .ok sql →
      List.Forall₂ b.TellsApart [columns] (bracketedLists b.dialect sql)) ∧
    ∀ table columns values statement, b.insertRow table columns values = .ok statement →
      List.Forall₂ b.TellsApart [columns] ((bracketedLists b.dialect statement.sql).take 1) :=
  ⟨fun _ _ h => createTable_tellsApart h, fun _ _ h => addConstraint_tellsApart h,
    fun _ _ _ _ _ h => createIndex_tellsApart h, fun _ _ _ _ h => insertRow_tellsApart h⟩

/-- Quotes names and folds them to capitals. -/
def shouting : Builder :=
  ⟨.generic, { quoted := true, case? := some .upper }⟩

/-- A table of accented names that are told apart, folded or not. -/
def accentedTable : TableSpec where
  name := "T"
  columns := [{ name := "é", type := .integer }, { name := "È", type := .integer }]
  primaryKey := ["é"]

/-- A foreign key over one of them. -/
def accentedKey : ConstraintSpec :=
  ⟨"T", "k", ["é"], .foreignKey "r" ["a"] false⟩

theorem lists_told_apart_accented :
    let created := "CREATE TABLE \"T\" (\"É\" INTEGER, \"È\" INTEGER, PRIMARY KEY (\"É\"))"
    let added := "ALTER TABLE \"T\" ADD CONSTRAINT \"K\" FOREIGN KEY (\"É\") REFERENCES \"R\" (\"A\")"
    let indexed := "CREATE INDEX \"I\" ON \"T\" (\"É\", \"È\")"
    let inserted : Statement := ⟨"INSERT INTO \"T\" (\"È\") VALUES (?)", [.int32 1]⟩
    (shouting.createTable accentedTable = .ok created ∧
        shouting.TellsApart ["é", "È"] (definedColumns .generic 2 created) ∧
        shouting.TellsApart ["é"] (keyColumns .generic 2 created)) ∧
      (shouting.addConstraint accentedKey = .ok added ∧
        List.Forall₂ shouting.TellsApart [["é"], ["a"]] (bracketedLists .generic added)) ∧
      (shouting.createIndex "t" "i" ["é", "È"] false = .ok indexed ∧
        List.Forall₂ shouting.TellsApart [["é", "È"]] (bracketedLists .generic indexed)) ∧
      shouting.insertRow "t" ["È"] [.int32 1] = .ok inserted ∧
        List.Forall₂ shouting.TellsApart [["È"]]
          ((bracketedLists .generic inserted.sql).take 1) := by
  obtain ⟨htable, hconstraint, hindex, hrow⟩ := lists_told_apart shouting
  exact ⟨⟨rfl, htable accentedTable _ rfl⟩, ⟨rfl, hconstraint accentedKey _ rfl⟩,
    ⟨rfl, hindex "t" "i" _ false _ rfl⟩, rfl, hrow "t" ["È"] [.int32 1] _ rfl⟩

/-- Two names that are told apart as they are given, and defined alike. -/
theorem accented_twice :
    let table : TableSpec :=
      { name := "T", columns := [{ name := "é", type := .integer }, { name := "É", type := .integer }] }
    let sql := "CREATE TABLE \"T\" (\"É\" INTEGER, \"É\" INTEGER)"
    shouting.createTable table = .ok sql ∧ definedColumns .generic 2 sql = ["\"É\"", "\"É\""] ∧
      ¬(definedColumns .generic 2 sql).Nodup := by
  refine ⟨rfl, ?_⟩
  have hdefined : definedColumns .generic 2 "CREATE TABLE \"T\" (\"É\" INTEGER, \"É\" INTEGER)" =
      ["\"É\"", "\"É\""] := by decide
  rw [hdefined]
  decide

/-! ## Keys -/

/-- A column of a key as it is written. Its table has a column of this name, and defines one that is
    written like it, unless names are not folded and the table spells its own in another way. -/
structure KeyColumn (b : Builder) (table : TableSpec) (defined : List String)
    (name written : String) : Prop where
  writes : b.ident name = .ok written
  declared : ∃ column ∈ table.columns, Text.sameName column.name name = true
  defined_iff : written ∈ defined ↔
    (b.caseRule = .verbatim → ∃ column ∈ table.columns, column.name = name)

/-- The columns of a quoted key are among those that its table defines if names are folded. If they are
    not, those are that are spelt like one of them. -/
theorem key_defined_iff (hquoted : b.options.quoted = true) (h : b.createTable table = .ok sql) :
    let count := table.columns.length
    let defined := definedColumns b.dialect count sql
    (table.columns.map (·.name)).mapM b.ident = .ok defined ∧
      List.Forall₂ (b.KeyColumn table defined) table.primaryKey (keyColumns b.dialect count sql) := by
  intro count defined
  obtain ⟨hdefined, hkey⟩ := createTable_tellsApart h
  have hdeclared := (TableSpec.of_validate (createTable_parts h).1).2.2
  refine ⟨hdefined.writes, ((List.forall₂_and_left _ _).2 ⟨hdeclared, mapM_ok hkey.writes⟩).imp ?_⟩
  rintro name written ⟨⟨column, hcolumn, hsame⟩, hname⟩
  refine ⟨hname, ⟨column, hcolumn, hsame⟩, ?_⟩
  rw [mem_written_iff hquoted hdefined.writes hname]
  simp only [List.mem_map, exists_exists_and_eq_and]
  -- Folded names are written alike if they are the same, and others only if they are one name.
  by_cases hrule : b.caseRule = .verbatim
  · simp only [(foldedParts_injective hrule).eq_iff, hrule, true_imp_iff]
  · exact iff_of_true ⟨column, hcolumn, foldedParts_eq_of_sameName hrule hsame⟩ (absurd · hrule)

/-- A key that is spelt in its own way is folded to the column it is over. -/
theorem key_defined_iff_folded :
    let table : TableSpec :=
      { name := "t", columns := [{ name := "id", type := .integer }], primaryKey := ["Id"] }
    let sql := "CREATE TABLE \"T\" (\"ID\" INTEGER, PRIMARY KEY (\"ID\"))"
    shouting.options.quoted = true ∧ shouting.createTable table = .ok sql ∧
      List.Forall₂ (shouting.KeyColumn table (definedColumns .generic 1 sql)) ["Id"]
        (keyColumns .generic 1 sql) :=
  ⟨rfl, rfl, (key_defined_iff rfl rfl).2⟩

/-- Where names are not folded it is over no column of the table. -/
theorem key_undefined :
    let table : TableSpec :=
      { name := "T", columns := [{ name := "id", type := .integer }], primaryKey := ["ID"] }
    let sql := "CREATE TABLE \"T\" (\"id\" INTEGER, PRIMARY KEY (\"ID\"))"
    (quoting .generic).createTable table = .ok sql ∧ keyColumns .generic 1 sql = ["\"ID\""] ∧
      definedColumns .generic 1 sql = ["\"id\""] ∧
      ¬∀ written ∈ keyColumns .generic 1 sql, written ∈ definedColumns .generic 1 sql :=
  ⟨rfl, by decide, by decide, by decide⟩

end Builder

end SchemaChange
