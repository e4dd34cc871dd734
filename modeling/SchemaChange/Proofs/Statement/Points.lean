import SchemaChange.Proofs.Statement.Columns

/-!
# Points in a statement

One rendering serves all names of a statement. It cuts a name at its points and writes them between the
parts, so a name shows a point outside of quotes exactly if it has one: for tables this is the schema, and
for columns, constraints and new names it is not refused either.

* `Builder.ident_isQualified_iff`: the names that show a point when they are written;
* `Builder.names_keep_points`: the columns and constraints of a statement, as they are read from it.
-/

namespace SchemaChange

open Glyph (top)

variable {d : Dialect}

/-- A name that has a point outside of quotes. -/
def IsQualified (d : Dialect) (written : String) : Prop :=
  some '.' ∈ Place.outside.outer d.quoteChar written.toList

instance (d : Dialect) : DecidablePred (IsQualified d) := fun _ =>
  inferInstanceAs (Decidable (_ ∈ _))

/-- What shows no points is no qualified name. -/
theorem ShowsOnly.not_isQualified {p : Char → Bool} {s : String} (h : ShowsOnly d p s)
    (hp : p '.' = false) : ¬IsQualified d s := by
  intro hmem
  obtain ⟨g, hg, hshown, hchar⟩ := Place.exists_glyph_of_mem_outer (n := 0) hmem
  rw [← hchar, h g hg hshown] at hp
  cases hp

/-- A point between two texts. -/
theorem Contained.isQualified {s : String} (hs : Contained d.quoteChar s) (t : String) :
    IsQualified d (s ++ ("." ++ t)) := by
  have hpoint : ∀ c ∈ ['.'], isPlain c = true := List.forall_mem_singleton.2 rfl
  have houter := Place.outer_of_isPlain (d := d) (t := t.toList) hpoint
  have happend : ("." ++ t).toList = ['.'] ++ t.toList := String.toList_append
  rw [IsQualified, hs.outer_append, happend, houter]
  simp

/-- A text has one part if it has no separator, and then the part is the text. -/
theorem Text.splitOn_eq_singleton_iff {sep : Char} {s t : List Char} :
    s.splitOn sep = [t] ↔ sep ∉ s ∧ t = s := by
  constructor
  · intro h
    have hs : [sep].intercalate (s.splitOn sep) = s := List.intercalate_splitOn sep
    rw [h, List.intercalate_singleton] at hs
    have hmem : t ∈ s.splitOn sep := h ▸ List.mem_singleton_self t
    exact ⟨hs ▸ not_mem_of_mem_splitOn hmem, hs⟩
  · rintro ⟨hsep, rfl⟩
    exact List.splitOn_eq_singleton hsep

namespace Builder

variable {b : Builder} {table : TableSpec} {column : ColumnSpec} {constraint : ConstraintSpec}
  {tableName name old written sql : String} {columns : List String}

/-- No part of a name shows a point. -/
theorem IsWrittenPart.not_isQualified {part : String} (h : IsWrittenPart d part) :
    ¬IsQualified d part := by
  rcases h with ⟨s, rfl⟩ | hbare
  · exact (ShowsOnly.quoted (.inr rfl) (fun _ => false) s).not_isQualified rfl
  · exact (ShowsOnly.of_forall (isNameChar_of_isBareName hbare)).not_isQualified rfl

/-- A name shows a point when it is written if it has one. -/
theorem ident_isQualified_iff (h : b.ident name = .ok written) :
    IsQualified b.dialect written ↔ '.' ∈ name.toList := by
  obtain ⟨parts, rfl, hlength, hparts⟩ := ident_parts h
  rcases parts with _ | ⟨part, _ | ⟨next, parts⟩⟩
  · exact absurd (List.length_eq_zero_iff.1 hlength.symm) (List.splitOn_ne_nil _ _)
  · -- A name of one part has no point, and its part shows none.
    obtain ⟨s, hs⟩ := List.length_eq_one_iff.1 hlength.symm
    rw [String.intercalate_singleton]
    exact iff_of_false (hparts part List.mem_cons_self).not_isQualified
      (Text.splitOn_eq_singleton_iff.1 hs).1
  · have hcontained := (hparts part List.mem_cons_self).phrase.contained
    rw [String.intercalate_cons_cons, String.append_assoc]
    refine iff_of_true (hcontained.isQualified _) ?_
    by_contra hpoint
    rw [List.splitOn_eq_singleton hpoint] at hlength
    exact absurd hlength (by simp)

/-- A name is written, and shows a point if it has one. -/
structure KeepsPoints (b : Builder) (name written : String) : Prop where
  writes : b.ident name = .ok written
  isQualified_iff : IsQualified b.dialect written ↔ '.' ∈ name.toList

theorem keepsPoints (h : b.ident name = .ok written) : b.KeepsPoints name written :=
  ⟨h, ident_isQualified_iff h⟩

theorem TellsApart.keepsPoints {names writtenNames : List String}
    (h : b.TellsApart names writtenNames) : List.Forall₂ b.KeepsPoints names writtenNames :=
  (mapM_ok h.writes).imp fun _ _ => Builder.keepsPoints

/-! ## Words -/

theorem ident_word (h : b.ident name = .ok written) : words b.dialect written = [written] :=
  pieces_eq_singleton ((ident_showsOnly h).top_notMem rfl)

/-- A change of a table begins with its name. -/
theorem words_alter {table : String} (h : b.ident tableName = .ok table) (rest : String) :
    words b.dialect ("ALTER TABLE " ++ table ++ " " ++ rest) =
      "ALTER" :: "TABLE" :: table :: words b.dialect rest := by
  have heq : "ALTER TABLE " ++ table ++ " " ++ rest =
      "ALTER" ++ " " ++ ("TABLE" ++ " " ++ (table ++ " " ++ rest)) :=
    String.toList_injective (by simp)
  rw [heq, words_word_append rfl (by decide), words_word_append rfl (by decide), ident_words h]

theorem addClause_words (h : b.addClause tableName column = .ok sql) :
    ∃ table name, b.ident tableName = .ok table ∧ b.ident column.name = .ok name ∧
      ["ALTER", "TABLE", table] ++ words b.dialect b.addKeyword ++ [name] <+: words b.dialect sql := by
  obtain ⟨table, htable, h⟩ := bind_ok h
  obtain ⟨definition, hdefinition, h⟩ := bind_ok h
  cases h
  obtain ⟨name, rest, hname, hrest⟩ := columnDefinition_words hdefinition
  have hkeyword : words b.dialect (b.addKeyword ++ " " ++ definition) =
      words b.dialect b.addKeyword ++ words b.dialect definition :=
    pieces_append (by decide) b.addKeyword_phrase.contained
  have hadd := words_alter htable (b.addKeyword ++ " " ++ definition)
  rw [hkeyword, hrest] at hadd
  simp only [String.append_assoc] at hadd ⊢
  exact ⟨table, name, htable, hname, rest, by simp [hadd]⟩

theorem backfill_words {value : Value} (h : b.backfill tableName name value = .ok sql) :
    ∃ table column, b.ident tableName = .ok table ∧ b.ident name = .ok column ∧
      ["UPDATE", table, "SET", column] <+: words b.dialect sql := by
  obtain ⟨table, htable, h⟩ := bind_ok h
  obtain ⟨column, hcolumn, h⟩ := bind_ok h
  obtain ⟨text, -, h⟩ := bind_ok h
  cases h
  have heq : "UPDATE " ++ table ++ " SET " ++ column ++ " = " ++ text =
      "UPDATE" ++ " " ++ (table ++ " " ++ ("SET" ++ " " ++ (column ++ " " ++ ("= " ++ text)))) :=
    String.toList_injective (by simp)
  rw [heq, words_word_append rfl (by decide), ident_words htable, words_word_append rfl (by decide),
    ident_words hcolumn]
  exact ⟨table, column, htable, hcolumn, _, rfl⟩

/-- What a statement that adds or fills a column begins with. -/
def NamesColumn (b : Builder) (tableName name sql : String) : Prop :=
  ∃ table column, b.ident tableName = .ok table ∧ b.KeepsPoints name column ∧
    (["ALTER", "TABLE", table] ++ words b.dialect b.addKeyword ++ [column] <+: words b.dialect sql ∨
      ["UPDATE", table, "SET", column] <+: words b.dialect sql)

theorem addColumn_namesColumn {batch : Batch} (h : b.addColumn tableName column = .ok batch) :
    ∀ sql ∈ batch.statements, b.NamesColumn tableName column.name sql := by
  have hclause (spec : ColumnSpec) {sql : String} (h : b.addClause tableName spec = .ok sql) :
      b.NamesColumn tableName spec.name sql := by
    obtain ⟨table, name, htable, hname, hwords⟩ := addClause_words h
    exact ⟨table, name, htable, keepsPoints hname, .inl hwords⟩
  rw [addColumn] at h
  split at h
  · obtain ⟨add, hadd, h⟩ := bind_ok h
    cases h
    exact List.forall_mem_singleton.2 (hclause column hadd)
  · obtain ⟨add, hadd, h⟩ := bind_ok h
    obtain ⟨fill, hfill, h⟩ := bind_ok h
    cases h
    obtain ⟨table, name, htable, hname, hwords⟩ := backfill_words hfill
    exact List.forall_mem_cons.2 ⟨hclause { column with nullable := true } hadd,
      List.forall_mem_singleton.2 ⟨table, name, htable, keepsPoints hname, .inr hwords⟩⟩

/-- What a statement that renames a column begins with. -/
def renameWords (d : Dialect) (table old new : String) : List String :=
  match d with
  | .mySql => ["ALTER", "TABLE", table, "CHANGE", old, new]
  | .derby => ["RENAME", "COLUMN", table ++ "." ++ old, "TO", new]
  | .oracle | .postgres | .generic => ["ALTER", "TABLE", table, "RENAME", "COLUMN", old, "TO", new]

theorem renameColumn_words (h : b.renameColumn tableName old column = .ok sql) :
    ∃ table oldName newName, b.ident tableName = .ok table ∧ b.ident old = .ok oldName ∧
      b.ident column.name = .ok newName ∧
      renameWords b.dialect table oldName newName <+: words b.dialect sql := by
  obtain ⟨table, htable, h⟩ := bind_ok h
  obtain ⟨oldName, hold, h⟩ := bind_ok h
  split at h
  · rename_i hd
    obtain ⟨definition, hdefinition, h⟩ := bind_ok h
    cases h
    obtain ⟨newName, rest, hnew, hrest⟩ := columnDefinition_words hdefinition
    have heq : "ALTER TABLE " ++ table ++ " CHANGE " ++ oldName ++ " " ++ definition =
        "ALTER TABLE " ++ table ++ " " ++ ("CHANGE" ++ " " ++ (oldName ++ " " ++ definition)) :=
      String.toList_injective (by simp)
    refine ⟨table, oldName, newName, htable, hold, hnew, rest, ?_⟩
    rw [heq, words_alter htable, words_word_append rfl (by decide), ident_words hold, hrest, hd]
    rfl
  · -- Derby joins the table and the column to one name.
    rename_i hd
    obtain ⟨newName, hnew, h⟩ := bind_ok h
    cases h
    have hjoined : Phrase b.dialect (table ++ "." ++ oldName) :=
      ((ident_phrase htable).append (Takes.of_walk rfl)).phrase (ident_phrase hold)
    have hblank : top ' ' ∉ view b.dialect (table ++ "." ++ oldName) := by
      rw [String.append_assoc]
      exact top_notMem_append (ident_phrase htable).contained ((ident_showsOnly htable).top_notMem rfl)
        (top_notMem_word_append rfl (by decide) ((ident_showsOnly hold).top_notMem rfl))
    have heq : "RENAME COLUMN " ++ table ++ "." ++ oldName ++ " TO " ++ newName =
        "RENAME" ++ " " ++ ("COLUMN" ++ " " ++ (table ++ "." ++ oldName ++ " " ++ ("TO" ++ " " ++
          newName))) :=
      String.toList_injective (by simp)
    refine ⟨table, oldName, newName, htable, hold, hnew, [], ?_⟩
    rw [heq, words_word_append rfl (by decide), words_word_append rfl (by decide),
      words_append hjoined.contained hblank, words_word_append rfl (by decide), ident_word hnew, hd]
    rfl
  all_goals
    rename_i hd
    obtain ⟨newName, hnew, h⟩ := bind_ok h
    cases h
    have heq : "ALTER TABLE " ++ table ++ " RENAME COLUMN " ++ oldName ++ " TO " ++ newName =
        "ALTER TABLE " ++ table ++ " " ++ ("RENAME" ++ " " ++ ("COLUMN" ++ " " ++ (oldName ++ " " ++
          ("TO" ++ " " ++ newName)))) :=
      String.toList_injective (by simp)
    refine ⟨table, oldName, newName, htable, hold, hnew, [], ?_⟩
    rw [heq, words_alter htable, words_word_append rfl (by decide), words_word_append rfl (by decide),
      ident_words hold, words_word_append rfl (by decide), ident_word hnew, hd]
    rfl

theorem addConstraint_words (h : b.addConstraint constraint = .ok sql) :
    ∃ table name, b.ident constraint.table = .ok table ∧ b.ident constraint.name = .ok name ∧
      ["ALTER", "TABLE", table, "ADD", "CONSTRAINT", name] <+: words b.dialect sql := by
  obtain ⟨_, -, h⟩ := bind_ok h
  obtain ⟨_, -, h⟩ := bind_ok h
  obtain ⟨body, -, h⟩ := bind_ok h
  obtain ⟨table, htable, h⟩ := bind_ok h
  obtain ⟨name, hname, h⟩ := bind_ok h
  cases h
  have heq : "ALTER TABLE " ++ table ++ " ADD CONSTRAINT " ++ name ++ " " ++ body =
      "ALTER TABLE " ++ table ++ " " ++ ("ADD" ++ " " ++ ("CONSTRAINT" ++ " " ++ (name ++ " " ++
        body))) :=
    String.toList_injective (by simp)
  rw [heq, words_alter htable, words_word_append rfl (by decide), words_word_append rfl (by decide),
    ident_words hname]
  exact ⟨table, name, htable, hname, _, rfl⟩

/-! ## Statements -/

/-- The names of columns and constraints in a statement are those that it is asked to write, each by
    itself, and each is a single identifier unless it was given with a point. -/
theorem names_keep_points (b : Builder) :
    (∀ table sql, b.createTable table = .ok sql →
      List.Forall₂ b.KeepsPoints (table.columns.map (·.name))
          (definedColumns b.dialect table.columns.length sql) ∧
        List.Forall₂ b.KeepsPoints table.primaryKey
          (keyColumns b.dialect table.columns.length sql)) ∧
    (∀ table column batch, b.addColumn table column = .ok batch →
      ∀ sql ∈ batch.statements, b.NamesColumn table column.name sql) ∧
    (∀ table old column sql, b.renameColumn table old column = .ok sql →
      ∃ tableName oldName newName, b.ident table = .ok tableName ∧ b.KeepsPoints old oldName ∧
        b.KeepsPoints column.name newName ∧
        renameWords b.dialect tableName oldName newName <+: words b.dialect sql) ∧
    (∀ table name columns unique sql, b.createIndex table name columns unique = .ok sql →
      List.Forall₂ (List.Forall₂ b.KeepsPoints) [columns] (bracketedLists b.dialect sql)) ∧
    ∀ constraint sql, b.addConstraint constraint = .ok sql →
      List.Forall₂ (List.Forall₂ b.KeepsPoints) constraint.columnLists (bracketedLists b.dialect sql) ∧
        ∃ tableName name, b.ident constraint.table = .ok tableName ∧
          b.KeepsPoints constraint.name name ∧
          ["ALTER", "TABLE", tableName, "ADD", "CONSTRAINT", name] <+: words b.dialect sql := by
  refine ⟨fun table sql h => ?_, fun _ _ _ h => addColumn_namesColumn h, fun table old column sql h => ?_,
    fun table name columns unique sql h => ?_, fun constraint sql h => ⟨?_, ?_⟩⟩
  · obtain ⟨hcolumns, hkey⟩ := createTable_tellsApart h
    exact ⟨hcolumns.keepsPoints, hkey.keepsPoints⟩
  · obtain ⟨tableName, oldName, newName, htable, hold, hnew, hwords⟩ := renameColumn_words h
    exact ⟨tableName, oldName, newName, htable, keepsPoints hold, keepsPoints hnew, hwords⟩
  · exact (createIndex_tellsApart h).imp fun _ _ => TellsApart.keepsPoints
  · exact (addConstraint_tellsApart h).imp fun _ _ => TellsApart.keepsPoints
  · obtain ⟨tableName, name, htable, hname, hwords⟩ := addConstraint_words h
    exact ⟨tableName, name, htable, keepsPoints hname, hwords⟩

/-- A table of a schema and a column of a single name. -/
def schemaTable : TableSpec where
  name := "s.t"
  columns := [{ name := "a", type := .integer }]
  primaryKey := ["a"]

/-- A column with a default. -/
def filledColumn : ColumnSpec where
  name := "b"
  type := .integer
  default? := some (.int32 1)

theorem names_keep_points_schema :
    let b := quoting .derby
    let created := "CREATE TABLE \"s\".\"t\" (\"a\" INTEGER, PRIMARY KEY (\"a\"))"
    let batch : Batch := ⟨["ALTER TABLE \"s\".\"t\" ADD COLUMN \"b\" INTEGER DEFAULT 1",
      "UPDATE \"s\".\"t\" SET \"b\" = 1"]⟩
    let renamed := "RENAME COLUMN \"s\".\"t\".\"a\" TO \"b\""
    let indexed := "CREATE INDEX \"i\" ON \"s\".\"t\" (\"a\")"
    let added := "ALTER TABLE \"s\".\"t\" ADD CONSTRAINT \"u\" UNIQUE (\"a\")"
    (b.createTable schemaTable = .ok created ∧
        List.Forall₂ b.KeepsPoints ["a"] (definedColumns .derby 1 created)) ∧
      (b.addColumn "s.t" filledColumn = .ok batch ∧
        ∀ sql ∈ batch.statements, b.NamesColumn "s.t" "b" sql) ∧
      (b.renameColumn "s.t" "a" filledColumn = .ok renamed ∧
        ∃ tableName oldName newName, b.ident "s.t" = .ok tableName ∧ b.KeepsPoints "a" oldName ∧
          b.KeepsPoints "b" newName ∧
          renameWords .derby tableName oldName newName <+: words .derby renamed) ∧
      (b.createIndex "s.t" "i" ["a"] false = .ok indexed ∧
        List.Forall₂ (List.Forall₂ b.KeepsPoints) [["a"]] (bracketedLists .derby indexed)) ∧
      b.addConstraint ⟨"s.t", "u", ["a"], .unique⟩ = .ok added ∧
        List.Forall₂ (List.Forall₂ b.KeepsPoints) [["a"]] (bracketedLists .derby added) := by
  obtain ⟨htable, hcolumn, hrename, hindex, hconstraint⟩ := names_keep_points (quoting .derby)
  exact ⟨⟨rfl, (htable schemaTable _ rfl).1⟩, ⟨rfl, hcolumn "s.t" filledColumn _ rfl⟩,
    ⟨rfl, hrename "s.t" "a" filledColumn _ rfl⟩, ⟨rfl, hindex "s.t" "i" ["a"] false _ rfl⟩,
    rfl, (hconstraint ⟨"s.t", "u", ["a"], .unique⟩ _ rfl).1⟩

/-- A column that is added under two names with a point between them. -/
theorem point_in_column :
    let sql := "ALTER TABLE T ADD COLUMN a.b INTEGER"
    (Builder.mk .generic {}).addColumn "T" { name := "a.b", type := .integer } = .ok ⟨[sql]⟩ ∧
      ["ALTER", "TABLE", "T", "ADD", "COLUMN", "a.b"] <+: words .generic sql ∧
      IsQualified .generic "a.b" :=
  ⟨rfl, by decide, by decide⟩

end Builder

end SchemaChange
