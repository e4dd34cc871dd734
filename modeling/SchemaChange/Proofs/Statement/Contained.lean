import SchemaChange.Build.Task
import SchemaChange.Proofs.Rebuild.Parts
import SchemaChange.Proofs.Statement.Clause

/-!
# Nothing gets out of its statement

A statement of a builder is words that are known and phrases by turns, so it is `Contained`: none of the
names, values, lists and numbers it was asked to write can end a region too early or late, nor the
statement itself. What the caller has written as it is has to be contained itself.

* `Builder.write_contained`
-/

namespace SchemaChange.Builder

variable {b : Builder} {table name column sql : String} {value : Value} {spec : ColumnSpec}

/-- A statement of words and a name. -/
theorem named_contained {words : List Char} (hwords : Stage.settled.walk? 0 words = some (.ready, 0))
    (h : (return String.ofList words ++ (← b.ident name)) = Except.ok sql) :
    Contained b.dialect.quoteChar sql := by
  obtain ⟨written, hwritten, h⟩ := bind_ok h
  cases h
  exact (Takes.begins hwords (ident_phrase hwritten)).contained

/-! ## Tables -/

/-- The clause of a key is a list of names between brackets. -/
theorem primaryKeyItem_phrase {spec : TableSpec} {items : List String}
    (h : b.primaryKeyItem spec = .ok items) : ∀ item ∈ items, Phrase b.dialect item := by
  rw [primaryKeyItem] at h
  split at h
  · cases h
    exact nofun
  · obtain ⟨columns, hcolumns, h⟩ := bind_ok h
    cases h
    refine List.forall_mem_singleton.2 (Takes.settle ?_)
    exact Takes.of_walk (by rfl) |>.phrase (identList_phrase hcolumns) |>.text (by rfl)

/-- The columns and the key of a new table stand between brackets. -/
theorem createTable_contained {spec : TableSpec} (h : b.createTable spec = .ok sql) :
    Contained b.dialect.quoteChar sql := by
  obtain ⟨_, -, h⟩ := bind_ok h
  obtain ⟨columns, hcolumns, h⟩ := bind_ok h
  obtain ⟨key, hkey, h⟩ := bind_ok h
  obtain ⟨tableName, htable, h⟩ := bind_ok h
  cases h
  have hitems : ∀ item ∈ columns ++ key, Phrase b.dialect item :=
    List.forall_mem_append.2
      ⟨forall_of_mapM_ok columnDefinition_phrase hcolumns, primaryKeyItem_phrase hkey⟩
  exact Takes.begins (by rfl) (ident_phrase htable)
    |>.clause (by rfl) (.intercalate (Takes.of_walk rfl) hitems) |>.ends (by rfl)

/-! ## Columns -/

theorem addKeyword_phrase (b : Builder) : Phrase b.dialect b.addKeyword := by
  unfold addKeyword
  split <;> exact .text rfl (.inl rfl)

/-- A new column is written by its name and its definition. -/
theorem addClause_contained (h : b.addClause table spec = .ok sql) :
    Contained b.dialect.quoteChar sql := by
  obtain ⟨tableName, htable, h⟩ := bind_ok h
  obtain ⟨definition, hdefinition, h⟩ := bind_ok h
  cases h
  exact Takes.begins (by rfl) (ident_phrase htable) |>.clause (by rfl) b.addKeyword_phrase
    |>.clause (by rfl) (columnDefinition_phrase hdefinition) |>.contained

theorem backfill_contained (h : b.backfill table column value = .ok sql) :
    Contained b.dialect.quoteChar sql := by
  obtain ⟨tableName, htable, h⟩ := bind_ok h
  obtain ⟨columnName, hcolumn, h⟩ := bind_ok h
  obtain ⟨literal, hliteral, h⟩ := bind_ok h
  cases h
  exact Takes.begins (by rfl) (ident_phrase htable) |>.clause (by rfl) (ident_phrase hcolumn)
    |>.clause (by rfl) (literal_phrase hliteral) |>.contained

/-- A column with a default is added by one statement and filled by another. -/
theorem addColumn_contained {batch : Batch} (h : b.addColumn table spec = .ok batch) :
    ∀ sql ∈ batch.statements, Contained b.dialect.quoteChar sql := by
  rw [addColumn] at h
  split at h
  · obtain ⟨add, hadd, h⟩ := bind_ok h
    cases h
    exact List.forall_mem_singleton.2 (addClause_contained hadd)
  · obtain ⟨add, hadd, h⟩ := bind_ok h
    obtain ⟨fill, hfill, h⟩ := bind_ok h
    cases h
    exact List.forall_mem_cons.2
      ⟨addClause_contained hadd, List.forall_mem_singleton.2 (backfill_contained hfill)⟩

theorem dropColumn_contained (h : b.dropColumn table column = .ok sql) :
    Contained b.dialect.quoteChar sql := by
  obtain ⟨tableName, htable, h⟩ := bind_ok h
  obtain ⟨columnName, hcolumn, h⟩ := bind_ok h
  cases h
  exact Takes.begins (by rfl) (ident_phrase htable) |>.clause (by rfl) (ident_phrase hcolumn)
    |>.contained

theorem renameColumn_contained (h : b.renameColumn table name spec = .ok sql) :
    Contained b.dialect.quoteChar sql := by
  obtain ⟨tableName, htable, h⟩ := bind_ok h
  obtain ⟨old, hold, h⟩ := bind_ok h
  split at h
  all_goals
    obtain ⟨new, hnew, h⟩ := bind_ok h
    cases h
  -- MySQL states the whole column anew, the others its name alone.
  · exact Takes.begins (by rfl) (ident_phrase htable) |>.clause (by rfl) (ident_phrase hold)
      |>.clause (by rfl) (columnDefinition_phrase hnew) |>.contained
  all_goals
    exact Takes.begins (by rfl) (ident_phrase htable) |>.clause (by rfl) (ident_phrase hold)
      |>.clause (by rfl) (ident_phrase hnew) |>.contained

/-- A type that is written as it is has to be contained itself. -/
theorem setNullable_contained {typeName? : Option String} {nullable : Bool}
    (htype : b.dialect = .mySql → ∀ typeName ∈ typeName?, Phrase b.dialect typeName)
    (h : b.setNullable table column typeName? nullable = .ok sql) :
    Contained b.dialect.quoteChar sql := by
  obtain ⟨tableName, htable, h⟩ := bind_ok h
  obtain ⟨columnName, hcolumn, h⟩ := bind_ok h
  extract_lets keyword at h
  have hkeyword : Phrase b.dialect keyword := by
    unfold keyword
    split <;> exact .text rfl (.inl rfl)
  have hverb : Phrase b.dialect (if nullable then "DROP" else "SET") := by
    split <;> exact .text rfl (.inl rfl)
  split at h
  · cases h
    exact Takes.begins (by rfl) (ident_phrase htable) |>.clause (by rfl) (ident_phrase hcolumn)
      |>.clause (by rfl) hverb |>.ends (by rfl)
  · cases h
    exact Takes.begins (by rfl) (ident_phrase htable) |>.clause (by rfl) (ident_phrase hcolumn)
      |>.clause (by rfl) hverb |>.ends (by rfl)
  · -- Only MySQL writes the type, after a look at its characters that does not count brackets.
    split at h
    · cases h
    · split at h
      · cases h
        exact Takes.begins (by rfl) (ident_phrase htable) |>.clause (by rfl) (ident_phrase hcolumn)
          |>.clause (by rfl) (htype ‹_› _ rfl) |>.clause (by rfl) hkeyword |>.contained
      · cases h
  · cases h
    exact Takes.begins (by rfl) (ident_phrase htable) |>.clause (by rfl) (ident_phrase hcolumn)
      |>.clause (by rfl) hkeyword |>.contained
  · cases h
    exact Takes.begins (by rfl) (ident_phrase htable) |>.clause (by rfl) (ident_phrase hcolumn)
      |>.clause (by rfl) hkeyword |>.contained

/-- A default is a literal behind a clause of the dialect. -/
theorem setDefault_contained (h : b.setDefault table column value = .ok sql) :
    Contained b.dialect.quoteChar sql := by
  obtain ⟨tableName, htable, h⟩ := bind_ok h
  obtain ⟨columnName, hcolumn, h⟩ := bind_ok h
  obtain ⟨literal, hliteral, h⟩ := bind_ok h
  extract_lets clause at h
  cases h
  have hclause : Takes b.dialect .settled 0 clause .ready 0 := by
    unfold clause
    split <;> exact (Takes.of_walk rfl).phrase (ident_phrase hcolumn) |>.text rfl
  exact (Takes.begins (by rfl) (ident_phrase htable)).append hclause |>.phrase (literal_phrase hliteral)
    |>.contained

theorem copyColumn_contained {source target : String}
    (h : b.copyColumn table source target = .ok sql) : Contained b.dialect.quoteChar sql := by
  obtain ⟨tableName, htable, h⟩ := bind_ok h
  obtain ⟨targetName, htarget, h⟩ := bind_ok h
  obtain ⟨sourceName, hsource, h⟩ := bind_ok h
  cases h
  exact Takes.begins (by rfl) (ident_phrase htable) |>.clause (by rfl) (ident_phrase htarget)
    |>.clause (by rfl) (ident_phrase hsource) |>.contained

/-! ## Constraints -/

/-- Each kind of constraint is a word and lists of names. -/
theorem constraintBody_phrase {c : ConstraintSpec} {columns body : String}
    (hcolumns : Phrase b.dialect columns) (h : b.constraintBody c columns = .ok body) :
    Phrase b.dialect body := by
  unfold constraintBody at h
  split at h
  · cases h
    exact Takes.settle (Takes.of_walk (by rfl) |>.phrase hcolumns |>.text (by rfl))
  · cases h
    exact Takes.settle (Takes.of_walk (by rfl) |>.phrase hcolumns |>.text (by rfl))
  · rename_i cascade _
    obtain ⟨referenced, hreferenced, h⟩ := bind_ok h
    obtain ⟨references, hreferences, h⟩ := bind_ok h
    cases h
    have hcascade : Takes b.dialect .ready 0 (if cascade then " ON DELETE CASCADE" else "") .settled 0 := by
      split
      · exact Takes.settle (Takes.of_walk rfl)
      · exact Takes.settle Takes.nil
    refine Takes.append (B := .ready) (b := 0) ?_ hcascade
    exact Takes.of_walk (by rfl) |>.phrase hcolumns |>.clause (by rfl) (ident_phrase hreferenced)
      |>.clause (by rfl) (identList_phrase hreferences) |>.text (by rfl)

/-- The body of a constraint stands behind its name. -/
theorem addConstraint_contained {c : ConstraintSpec} (h : b.addConstraint c = .ok sql) :
    Contained b.dialect.quoteChar sql := by
  obtain ⟨_, -, h⟩ := bind_ok h
  obtain ⟨columns, hcolumns, h⟩ := bind_ok h
  obtain ⟨body, hbody, h⟩ := bind_ok h
  obtain ⟨tableName, htable, h⟩ := bind_ok h
  obtain ⟨constraint, hname, h⟩ := bind_ok h
  cases h
  exact Takes.begins (by rfl) (ident_phrase htable) |>.clause (by rfl) (ident_phrase hname)
    |>.clause (by rfl) (constraintBody_phrase (identList_phrase hcolumns) hbody) |>.contained

/-- A constraint is dropped by a word for its kind and its name. -/
theorem dropNamed_contained {keyword : String} (hkeyword : Phrase b.dialect keyword)
    (h : b.dropNamed keyword table name = .ok sql) : Contained b.dialect.quoteChar sql := by
  obtain ⟨tableName, htable, h⟩ := bind_ok h
  obtain ⟨constraint, hname, h⟩ := bind_ok h
  cases h
  exact Takes.begins (by rfl) (ident_phrase htable) |>.clause (by rfl) hkeyword
    |>.clause (by rfl) (ident_phrase hname) |>.contained

theorem dropForeignKey_contained (h : b.dropForeignKey table name = .ok sql) :
    Contained b.dialect.quoteChar sql := by
  refine dropNamed_contained ?_ h
  split <;> exact .text rfl (.inl rfl)

theorem dropUnique_contained (h : b.dropUnique table name = .ok sql) :
    Contained b.dialect.quoteChar sql := by
  refine dropNamed_contained ?_ h
  split <;> exact .text rfl (.inl rfl)

theorem dropPrimaryKey_contained (h : b.dropPrimaryKey table name = .ok sql) :
    Contained b.dialect.quoteChar sql := by
  rw [dropPrimaryKey] at h
  split at h
  · exact dropNamed_contained (.text rfl (.inl rfl)) h
  · obtain ⟨tableName, htable, h⟩ := bind_ok h
    cases h
    exact Takes.begins (by rfl) (ident_phrase htable) |>.ends (by rfl)

/-- The query for the names of constraints binds the table and the catalog, and writes neither. -/
theorem constraintNames_contained {catalog? : Option String} {statement : Statement}
    (h : b.constraintNames table catalog? = .ok statement) :
    Contained b.dialect.quoteChar statement.sql := by
  rw [constraintNames] at h
  split at h
  · cases h
  · extract_lets folded first second at h
    have hfirst : Phrase b.dialect first := Dialect.placeholder_phrase 1
    have hsecond : Phrase b.dialect second := Dialect.placeholder_phrase 2
    clear_value first second
    cases h
    -- The queries differ in the views they read and in the number of their marks. Long texts are walked
    -- in the two parts in which they are written.
    split
    · exact Takes.begins (by rfl) hfirst |>.contained
    · exact Takes.of_walk (by rfl) |>.text (by rfl) |>.phrase hfirst |>.contained
    · exact Takes.of_walk (by rfl) |>.text (by rfl) |>.phrase hfirst |>.clause (by rfl) hsecond
        |>.ends (by rfl)
    · exact Takes.of_walk (by rfl) |>.text (by rfl) |>.phrase hfirst |>.ends (by rfl)
    · exact Takes.of_walk (by rfl) |>.text (by rfl) |>.phrase hfirst |>.clause (by rfl) hsecond
        |>.ends (by rfl)
    · exact Takes.of_walk (by rfl) |>.text (by rfl) |>.phrase hfirst |>.clause (by rfl) hsecond
        |>.ends (by rfl)
    · exact Takes.of_walk (by rfl) |>.text (by rfl) |>.phrase hfirst |>.ends (by rfl)
    · exact Takes.of_walk (by rfl) |>.text (by rfl) |>.phrase hfirst |>.ends (by rfl)

/-! ## Indexes and sequences -/

theorem createIndex_contained {columns : List String} {unique : Bool}
    (h : b.createIndex table name columns unique = .ok sql) : Contained b.dialect.quoteChar sql := by
  obtain ⟨index, hindex, h⟩ := bind_ok h
  obtain ⟨tableName, htable, h⟩ := bind_ok h
  obtain ⟨list, hlist, h⟩ := bind_ok h
  cases h
  have hunique : Phrase b.dialect (if unique then "UNIQUE " else "") := by
    split <;> exact .text rfl (.inl rfl)
  exact Takes.begins (by rfl) hunique |>.clause (by rfl) (ident_phrase hindex)
    |>.clause (by rfl) (ident_phrase htable) |>.clause (by rfl) (identList_phrase hlist)
    |>.ends (by rfl)

theorem dropIndex_contained (h : b.dropIndex table name = .ok sql) :
    Contained b.dialect.quoteChar sql := by
  obtain ⟨index, hindex, h⟩ := bind_ok h
  split at h
  · obtain ⟨tableName, htable, h⟩ := bind_ok h
    cases h
    exact Takes.begins (by rfl) (ident_phrase hindex) |>.clause (by rfl) (ident_phrase htable)
      |>.contained
  · cases h
    exact Takes.begins (by rfl) (ident_phrase hindex) |>.contained

theorem createSequence_contained {start increment : Int64}
    (h : b.createSequence name start increment = .ok sql) : Contained b.dialect.quoteChar sql := by
  obtain ⟨_, -, h⟩ := bind_ok h
  obtain ⟨sequence, hname, h⟩ := bind_ok h
  cases h
  exact Takes.begins (by rfl) (ident_phrase hname) |>.clause (by rfl) (.intText _)
    |>.clause (by rfl) (.intText _) |>.contained

theorem dropSequence_contained (h : b.dropSequence name = .ok sql) :
    Contained b.dialect.quoteChar sql := by
  obtain ⟨_, -, h⟩ := bind_ok h
  obtain ⟨sequence, hname, h⟩ := bind_ok h
  cases h
  split
  · exact Takes.begins (by rfl) (ident_phrase hname) |>.ends (by rfl)
  · exact Takes.begins (by rfl) (ident_phrase hname) |>.append Takes.nil |>.contained

/-! ## Rows -/

theorem placeholders_phrase (b : Builder) (i count : Nat) :
    ∀ mark ∈ b.placeholders i count, Phrase b.dialect mark := by
  induction count generalizing i with
  | zero => exact nofun
  | succ count ih => exact List.forall_mem_cons.2 ⟨Dialect.placeholder_phrase i, ih (i + 1)⟩

/-- A row is written by marks, whatever its values are. -/
theorem insertRow_contained {columns : List String} {values : List Value} {statement : Statement}
    (h : b.insertRow table columns values = .ok statement) :
    Contained b.dialect.quoteChar statement.sql := by
  rw [insertRow] at h
  obtain ⟨-, h⟩ := unless_ok h
  obtain ⟨tableName, htable, h⟩ := bind_ok h
  obtain ⟨list, hlist, h⟩ := bind_ok h
  cases h
  exact Takes.begins (by rfl) (ident_phrase htable) |>.clause (by rfl) (identList_phrase hlist)
    |>.clause (by rfl) (.intercalate (Takes.of_walk rfl) (b.placeholders_phrase 1 _)) |>.ends (by rfl)

/-- A condition is written as it is, but for blanks around it. -/
theorem whereClause_takes {d : Dialect} {condition? : Option String}
    (hraw : ∀ text ∈ condition?, Phrase d (String.ofList (Text.trim text.toList))) :
    Takes d .settled 0 (whereClause condition?) .settled 0 := by
  cases condition? with
  | none => exact Takes.nil
  | some text =>
    dsimp only [whereClause]
    split
    · exact Takes.nil
    · exact Takes.begins (by rfl) (hraw text rfl)

/-- An update ends with the condition as the caller writes it, if there is one. -/
theorem updateColumn_contained {condition? : Option String} {statement : Statement}
    (hraw : ∀ text ∈ condition?, Phrase b.dialect (String.ofList (Text.trim text.toList)))
    (h : b.updateColumn table column value condition? = .ok statement) :
    Contained b.dialect.quoteChar statement.sql := by
  obtain ⟨tableName, htable, h⟩ := bind_ok h
  obtain ⟨columnName, hcolumn, h⟩ := bind_ok h
  cases h
  exact Takes.begins (by rfl) (ident_phrase htable) |>.clause (by rfl) (ident_phrase hcolumn)
    |>.clause (by rfl) (Dialect.placeholder_phrase 1) |>.append (whereClause_takes hraw) |>.contained

/-! ## Changes of a type -/

/-- A condition on a key compares a name to a mark. -/
theorem keyConditions_phrase {keys : List String} (h : ∀ key ∈ keys, Phrase b.dialect key) (i : Nat) :
    ∀ condition ∈ b.keyConditions i keys, Phrase b.dialect condition := by
  induction keys generalizing i with
  | nil => exact nofun
  | cons key keys ih =>
    obtain ⟨hkey, hkeys⟩ := List.forall_mem_cons.1 h
    refine List.forall_mem_cons.2 ⟨?_, ih hkeys (i + 1)⟩
    exact Takes.clause hkey (by rfl) (Dialect.placeholder_phrase i)

/-- The query and the update of a decoding copy. -/
theorem decodingCopy_contained {source target : String} {keyColumns : List String} {copy : Copy}
    (h : b.decodingCopy table source target keyColumns = .ok copy) :
    ∀ sql ∈ copy.texts, Contained b.dialect.quoteChar sql := by
  obtain ⟨tableName, htable, h⟩ := bind_ok h
  obtain ⟨sourceName, hsource, h⟩ := bind_ok h
  obtain ⟨targetName, htarget, h⟩ := bind_ok h
  obtain ⟨keys, hkeys, h⟩ := bind_ok h
  obtain ⟨-, h⟩ := unless_ok h
  cases h
  have hsourceName : ∀ name ∈ [sourceName], Phrase b.dialect name :=
    List.forall_mem_singleton.2 (ident_phrase hsource)
  have hkeyNames : ∀ name ∈ keys, Phrase b.dialect name := forall_of_mapM_ok ident_phrase hkeys
  have hselected : Phrase b.dialect (String.intercalate ", " (keys ++ [sourceName])) :=
    .intercalate (Takes.of_walk rfl) (List.forall_mem_append.2 ⟨hkeyNames, hsourceName⟩)
  -- Without keys the source itself singles out the row.
  have hrow : ∀ name ∈ if keys.isEmpty then [sourceName] else keys, Phrase b.dialect name := by
    split
    · exact hsourceName
    · exact hkeyNames
  refine List.forall_mem_cons.2 ⟨?_, List.forall_mem_singleton.2 ?_⟩
  · exact Takes.begins (by rfl) hselected |>.clause (by rfl) (ident_phrase htable)
      |>.clause (by rfl) (ident_phrase hsource) |>.ends (by rfl)
  · exact Takes.begins (by rfl) (ident_phrase htable) |>.clause (by rfl) (ident_phrase htarget)
      |>.clause (by rfl) (Dialect.placeholder_phrase 1)
      |>.clause (by rfl) (.intercalate (Takes.of_walk rfl) (keyConditions_phrase hrow 2)) |>.contained

/-- The statements of a rebuild are each made by one of the functions above. -/
theorem Parts.contained {target : ColumnSpec} {current : SqlType} {suffix : String}
    {keyColumns : List String} {plan : Rebuild}
    (h : b.Parts table target current suffix keyColumns plan) :
    ∀ sql ∈ plan.texts, Contained b.dialect.quoteChar sql := by
  have hcopy : ∀ sql ∈ plan.copy.texts, Contained b.dialect.quoteChar sql := by
    have hparts := h.copy
    split at hparts
    · exact decodingCopy_contained hparts
    · obtain ⟨sql, hsql, hplan⟩ := map_ok hparts
      rw [hplan]
      exact List.forall_mem_singleton.2 (copyColumn_contained hsql)
  have hnullability : ∀ sql ∈ plan.restoreNullability?.toList, Contained b.dialect.quoteChar sql := by
    have hparts := h.restoreNullability
    split at hparts
    · rw [hparts]
      exact nofun
    · obtain ⟨typeName, sql, htype, hsql, hplan⟩ := hparts
      rw [hplan]
      refine List.forall_mem_singleton.2 (setNullable_contained ?_ hsql)
      rintro - _ ⟨⟩
      exact nativeType_phrase htype
  have hdefault : ∀ sql ∈ plan.restoreDefault?.toList, Contained b.dialect.quoteChar sql := by
    have hparts := h.restoreDefault
    split at hparts
    · rw [hparts]
      exact nofun
    · obtain ⟨sql, hsql, hplan⟩ := hparts
      rw [hplan]
      exact List.forall_mem_singleton.2 (setDefault_contained hsql)
  simp only [Rebuild.texts, Rebuild.restorations, List.forall_mem_cons, List.forall_mem_append]
  exact ⟨addClause_contained h.addTemporary, ⟨hcopy, dropColumn_contained h.dropOld,
    renameColumn_contained h.rename, nofun⟩, hnullability, hdefault⟩

theorem changeColumnInPlace_contained (h : b.changeColumnInPlace table spec = .ok sql) :
    Contained b.dialect.quoteChar sql := by
  obtain ⟨tableName, htable, h⟩ := bind_ok h
  obtain ⟨columnName, hcolumn, h⟩ := bind_ok h
  obtain ⟨typeName, htype, h⟩ := bind_ok h
  split at h
  · cases h
    exact Takes.begins (by rfl) (ident_phrase htable) |>.clause (by rfl) (ident_phrase hcolumn)
      |>.clause (by rfl) (nativeType_phrase htype) |>.contained
  · obtain ⟨definition, hdefinition, h⟩ := bind_ok h
    cases h
    exact Takes.begins (by rfl) (ident_phrase htable)
      |>.clause (by rfl) (columnDefinition_phrase hdefinition) |>.contained
  · cases h
    exact Takes.begins (by rfl) (ident_phrase htable) |>.clause (by rfl) (ident_phrase hcolumn)
      |>.clause (by rfl) (nativeType_phrase htype) |>.contained
  · cases h
  · cases h

/-- A type is changed by one statement, or by those of a rebuild. -/
theorem alterColumn_contained {current : SqlType} {keyColumns : List String} {change : ColumnChange}
    (h : b.alterColumn table spec current keyColumns = .ok change) :
    ∀ sql ∈ change.texts, Contained b.dialect.quoteChar sql := by
  rw [alterColumn] at h
  split at h
  · obtain ⟨sql, hsql, h⟩ := bind_ok h
    cases h
    exact List.forall_mem_singleton.2 (changeColumnInPlace_contained hsql)
  · obtain ⟨plan, hplan, h⟩ := bind_ok h
    cases h
    exact (rebuildColumn_parts hplan).contained

/-! ## All tasks -/

variable {sqls : List String} {p : String → Prop}

/-- What holds of the texts of whatever is built holds of the statements of the task. -/
theorem forall_of_texts_ok {α : Type} {x : Except BuildError α} {texts : α → List String}
    (hx : ∀ {a}, x = .ok a → ∀ sql ∈ texts a, p sql) (h : texts <$> x = .ok sqls) :
    ∀ sql ∈ sqls, p sql := by
  obtain ⟨a, ha, rfl⟩ := map_ok h
  exact hx ha

theorem forall_of_text_ok {α : Type} {x : Except BuildError α} {text : α → String}
    (hx : ∀ {a}, x = .ok a → p (text a)) (h : (fun a => [text a]) <$> x = .ok sqls) :
    ∀ sql ∈ sqls, p sql :=
  forall_of_texts_ok (fun ha => List.forall_mem_singleton.2 (hx ha)) h

/-- Whatever a builder is asked to write, each statement of it is contained if the texts are that it has
    to write as they are. -/
theorem write_contained (b : Builder) (task : Task)
    (hraw : ∀ text ∈ task.raw b.dialect, Contained b.dialect.quoteChar text)
    (h : b.write task = .ok sqls) : ∀ sql ∈ sqls, Contained b.dialect.quoteChar sql := by
  cases task with
  | createTable => exact forall_of_text_ok createTable_contained h
  | dropTable | emptyTable | countRows => exact forall_of_text_ok (named_contained rfl) h
  | addColumn => exact forall_of_texts_ok addColumn_contained h
  | dropColumn => exact forall_of_text_ok dropColumn_contained h
  | renameColumn => exact forall_of_text_ok renameColumn_contained h
  | alterColumn => exact forall_of_texts_ok alterColumn_contained h
  | rebuildColumn | charArrayDetour =>
    exact forall_of_texts_ok (fun hplan => (rebuildColumn_parts hplan).contained) h
  | setNullable _ _ typeName? =>
    refine forall_of_text_ok (setNullable_contained fun hd typeName htype => ?_) h
    refine .of_contained (hraw typeName ?_)
    rw [Task.raw, if_pos hd]
    exact Option.mem_toList.2 htype
  | setDefault => exact forall_of_text_ok setDefault_contained h
  | addConstraint => exact forall_of_text_ok addConstraint_contained h
  | dropForeignKey => exact forall_of_text_ok dropForeignKey_contained h
  | dropUnique => exact forall_of_text_ok dropUnique_contained h
  | dropPrimaryKey => exact forall_of_text_ok dropPrimaryKey_contained h
  | constraintNames => exact forall_of_text_ok constraintNames_contained h
  | createIndex => exact forall_of_text_ok createIndex_contained h
  | dropIndex => exact forall_of_text_ok dropIndex_contained h
  | createSequence => exact forall_of_text_ok createSequence_contained h
  | dropSequence => exact forall_of_text_ok dropSequence_contained h
  | insertRow => exact forall_of_text_ok insertRow_contained h
  | updateColumn _ _ _ condition? =>
    refine forall_of_text_ok (updateColumn_contained fun condition hcondition => ?_) h
    exact .of_contained (hraw _ (List.mem_map_of_mem (Option.mem_toList.2 hcondition)))
  | copyColumn => exact forall_of_text_ok copyColumn_contained h
  | decodingCopy => exact forall_of_texts_ok decodingCopy_contained h

/-- A name that holds the quote, a semicolon and dashes, and a condition that the caller writes. -/
theorem write_contained_quoted :
    (Builder.mk .mySql { quoted := true }).write
        (.updateColumn "T" "C\x60;--" .null (some " N = ';' ")) =
        .ok ["UPDATE \x60T\x60 SET \x60C\x60\x60;--\x60 = ? WHERE N = ';'"] ∧
      ∀ sql ∈ ["UPDATE \x60T\x60 SET \x60C\x60\x60;--\x60 = ? WHERE N = ';'"],
        Contained '\x60' sql :=
  ⟨rfl, write_contained (Builder.mk .mySql { quoted := true })
    (.updateColumn "T" "C\x60;--" .null (some " N = ';' ")) (by decide) rfl⟩

end SchemaChange.Builder
