import SchemaChange.Proofs.Statement.Uncommented

/-!
# Statements that are cut short

Each statement is words and parts by turns, so it shows the sign that begins a comment exactly if one of
the names written into it does, or a condition that the caller writes. Quoted names never do. Bare names are
accepted with the sign by every dialect, and one in which it begins a comment runs such a statement up to
the name only.

* `Builder.Task.writtenNames`: the names that a task writes;
* `Builder.write_isCutShort_iff`: a statement is cut short just if such a name or a condition shows the sign.
-/

namespace SchemaChange.Builder

variable {b : Builder} {names names' sqls sqls' : List String} {table name column sql : String}
  {value : Value} {spec : ColumnSpec}

/-! ## Tables -/

/-- A statement of words and a name. -/
theorem named_writes {words : List Char} (hwords : isCalm words = true)
    (h : (return String.ofList words ++ (← b.ident name)) = Except.ok sql) : b.Writes [name] sql := by
  obtain ⟨written, hwritten, h⟩ := bind_ok h
  cases h
  exact .begins hwords (ident_writes hwritten)

/-- The clause of a key shows the signs of its columns. -/
theorem primaryKeyItem_writes {table : TableSpec} {items : List String}
    (h : b.primaryKeyItem table = .ok items) :
    ∃ lists, lists.flatten = table.primaryKey ∧ List.Forall₂ b.Writes lists items := by
  rw [primaryKeyItem] at h
  split at h
  · cases h
    exact ⟨[], (List.isEmpty_iff.1 ‹_›).symm, .nil⟩
  · obtain ⟨columns, hcolumns, h⟩ := bind_ok h
    cases h
    exact ⟨[table.primaryKey], List.flatten_singleton,
      .cons ((Writes.begins rfl (identList_writes hcolumns)).ends rfl) .nil⟩

/-- A new table is written with its name, those of its columns and those of its key. -/
theorem createTable_writes {table : TableSpec} (h : b.createTable table = .ok sql) :
    b.Writes (table.name :: (table.columns.map (·.name) ++ table.primaryKey)) sql := by
  obtain ⟨_, -, h⟩ := bind_ok h
  obtain ⟨definitions, hdefinitions, h⟩ := bind_ok h
  obtain ⟨key, hkey, h⟩ := bind_ok h
  obtain ⟨tableName, htable, h⟩ := bind_ok h
  cases h
  obtain ⟨lists, hlists, hitems⟩ := primaryKeyItem_writes hkey
  have hbody := Writes.intercalate (w := ", ".toList) rfl
    (List.rel_append (Writes.of_mapM columnDefinition_writes hdefinitions) hitems)
  rw [List.flatten_append, hlists, ← List.flatMap_def, ← List.map_eq_flatMap] at hbody
  exact Writes.begins rfl (ident_writes htable) |>.clause rfl hbody |>.ends rfl

/-! ## Columns -/

/-- The word that adds a column holds no name. -/
theorem addKeyword_writes (b : Builder) : b.Writes [] b.addKeyword := by
  unfold addKeyword
  split <;> exact .words rfl

/-- A new column is written under its table. -/
theorem addClause_writes (h : b.addClause table spec = .ok sql) : b.Writes [table, spec.name] sql := by
  obtain ⟨tableName, htable, h⟩ := bind_ok h
  obtain ⟨definition, hdefinition, h⟩ := bind_ok h
  cases h
  exact Writes.begins rfl (ident_writes htable) |>.clause rfl b.addKeyword_writes
    |>.clause rfl (columnDefinition_writes hdefinition)

theorem backfill_writes (h : b.backfill table column value = .ok sql) :
    b.Writes [table, column] sql := by
  obtain ⟨tableName, htable, h⟩ := bind_ok h
  obtain ⟨columnName, hcolumn, h⟩ := bind_ok h
  obtain ⟨literal, hliteral, h⟩ := bind_ok h
  cases h
  exact Writes.begins rfl (ident_writes htable) |>.clause rfl (ident_writes hcolumn)
    |>.clause rfl (literal_writes hliteral)

theorem dropColumn_writes (h : b.dropColumn table column = .ok sql) :
    b.Writes [table, column] sql := by
  obtain ⟨tableName, htable, h⟩ := bind_ok h
  obtain ⟨columnName, hcolumn, h⟩ := bind_ok h
  cases h
  exact Writes.begins rfl (ident_writes htable) |>.clause rfl (ident_writes hcolumn)

theorem renameColumn_writes (h : b.renameColumn table name spec = .ok sql) :
    b.Writes [table, name, spec.name] sql := by
  obtain ⟨tableName, htable, h⟩ := bind_ok h
  obtain ⟨old, hold, h⟩ := bind_ok h
  split at h
  all_goals
    obtain ⟨new, hnew, h⟩ := bind_ok h
    cases h
  -- MySQL states the whole column anew, the others its name alone.
  · exact Writes.begins rfl (ident_writes htable) |>.clause rfl (ident_writes hold)
      |>.clause rfl (columnDefinition_writes hnew)
  all_goals
    exact Writes.begins rfl (ident_writes htable) |>.clause rfl (ident_writes hold)
      |>.clause rfl (ident_writes hnew)

/-- A type shows no sign, since no text is accepted for one that holds it. -/
theorem setNullable_writes {typeName? : Option String} {nullable : Bool}
    (h : b.setNullable table column typeName? nullable = .ok sql) : b.Writes [table, column] sql := by
  obtain ⟨tableName, htable, h⟩ := bind_ok h
  obtain ⟨columnName, hcolumn, h⟩ := bind_ok h
  extract_lets keyword at h
  have hkeyword : b.Writes [] keyword := by
    unfold keyword
    split <;> exact .words rfl
  have hverb : b.Writes [] (if nullable then "DROP" else "SET") := by
    split <;> exact .words rfl
  split at h
  · cases h
    exact Writes.begins rfl (ident_writes htable) |>.clause rfl (ident_writes hcolumn)
      |>.clause rfl hverb |>.ends rfl
  · cases h
    exact Writes.begins rfl (ident_writes htable) |>.clause rfl (ident_writes hcolumn)
      |>.clause rfl hverb |>.ends rfl
  · split at h
    · cases h
    · split at h
      · cases h
        exact Writes.begins rfl (ident_writes htable) |>.clause rfl (ident_writes hcolumn)
          |>.clause rfl (isTypeText_writes ‹_›) |>.clause rfl hkeyword
      · cases h
  · cases h
    exact Writes.begins rfl (ident_writes htable) |>.clause rfl (ident_writes hcolumn)
      |>.clause rfl hkeyword
  · cases h
    exact Writes.begins rfl (ident_writes htable) |>.clause rfl (ident_writes hcolumn)
      |>.clause rfl hkeyword

/-- A default is a literal, and shows no sign. -/
theorem setDefault_writes (h : b.setDefault table column value = .ok sql) :
    b.Writes [table, column] sql := by
  obtain ⟨tableName, htable, h⟩ := bind_ok h
  obtain ⟨columnName, hcolumn, h⟩ := bind_ok h
  obtain ⟨literal, hliteral, h⟩ := bind_ok h
  extract_lets clause at h
  cases h
  have hclause : b.Writes [column] clause := by
    unfold clause
    split <;> exact (Writes.begins rfl (ident_writes hcolumn)).ends rfl
  exact (Writes.begins rfl (ident_writes htable)).append hclause |>.append (literal_writes hliteral)

theorem copyColumn_writes {source target : String} (h : b.copyColumn table source target = .ok sql) :
    b.Writes [table, target, source] sql := by
  obtain ⟨tableName, htable, h⟩ := bind_ok h
  obtain ⟨targetName, htarget, h⟩ := bind_ok h
  obtain ⟨sourceName, hsource, h⟩ := bind_ok h
  cases h
  exact Writes.begins rfl (ident_writes htable) |>.clause rfl (ident_writes htarget)
    |>.clause rfl (ident_writes hsource)

/-! ## Constraints -/

/-- The names that a constraint writes after those of its table and its own. -/
def constraintBodyNames (c : ConstraintSpec) : List String :=
  c.columns ++ match c.kind with
    | .primaryKey | .unique => []
    | .foreignKey referencedTable referencedColumns _ => referencedTable :: referencedColumns

/-- The body of a constraint names its columns, and for a foreign key what these refer to. -/
theorem constraintBody_writes {c : ConstraintSpec} {columns body : String}
    (hcolumns : b.Writes c.columns columns) (h : b.constraintBody c columns = .ok body) :
    b.Writes (constraintBodyNames c) body := by
  unfold constraintBody at h
  unfold constraintBodyNames
  cases hkind : c.kind with
  | primaryKey | unique =>
    rw [hkind] at h
    cases h
    rw [List.append_nil]
    exact (Writes.begins rfl hcolumns).ends rfl
  | foreignKey referencedTable referencedColumns cascade =>
    rw [hkind] at h
    obtain ⟨referenced, hreferenced, h⟩ := bind_ok h
    obtain ⟨references, hreferences, h⟩ := bind_ok h
    cases h
    have hcascade : b.Writes [] (if cascade then " ON DELETE CASCADE" else "") := by
      split <;> exact .words rfl
    have hbody : b.Writes (c.columns ++ [referencedTable] ++ referencedColumns)
        ("FOREIGN KEY (" ++ columns ++ ") REFERENCES " ++ referenced ++ " (" ++ references ++ ")") :=
      Writes.begins rfl hcolumns |>.clause rfl (ident_writes hreferenced)
        |>.clause rfl (identList_writes hreferences) |>.ends rfl
    have happend := hbody.append hcascade
    rwa [List.append_nil, List.append_assoc] at happend

theorem addConstraint_writes {c : ConstraintSpec} (h : b.addConstraint c = .ok sql) :
    b.Writes (c.table :: c.name :: constraintBodyNames c) sql := by
  obtain ⟨_, -, h⟩ := bind_ok h
  obtain ⟨columns, hcolumns, h⟩ := bind_ok h
  obtain ⟨body, hbody, h⟩ := bind_ok h
  obtain ⟨tableName, htable, h⟩ := bind_ok h
  obtain ⟨constraint, hname, h⟩ := bind_ok h
  cases h
  exact Writes.begins rfl (ident_writes htable) |>.clause rfl (ident_writes hname)
    |>.clause rfl (constraintBody_writes (identList_writes hcolumns) hbody)

/-- A constraint is dropped by its name and that of its table. -/
theorem dropNamed_writes {keyword : String} (hkeyword : b.Writes [] keyword)
    (h : b.dropNamed keyword table name = .ok sql) : b.Writes [table, name] sql := by
  obtain ⟨tableName, htable, h⟩ := bind_ok h
  obtain ⟨constraint, hname, h⟩ := bind_ok h
  cases h
  exact Writes.begins rfl (ident_writes htable) |>.clause rfl hkeyword |>.clause rfl (ident_writes hname)

theorem dropForeignKey_writes (h : b.dropForeignKey table name = .ok sql) :
    b.Writes [table, name] sql := by
  refine dropNamed_writes ?_ h
  split <;> exact .words rfl

theorem dropUnique_writes (h : b.dropUnique table name = .ok sql) : b.Writes [table, name] sql := by
  refine dropNamed_writes ?_ h
  split <;> exact .words rfl

/-- Not every dialect names the key that it drops. -/
theorem dropPrimaryKey_writes (h : b.dropPrimaryKey table name = .ok sql) :
    b.Writes (if b.dialect.dropsPrimaryKeyByName then [table, name] else [table]) sql := by
  rw [dropPrimaryKey] at h
  split at h
  · rw [if_pos ‹_›]
    exact dropNamed_writes (.words rfl) h
  · obtain ⟨tableName, htable, h⟩ := bind_ok h
    cases h
    rw [if_neg ‹_›]
    exact (Writes.begins rfl (ident_writes htable)).ends rfl

/-- The names of a table's constraints are asked for with marks, and no name is written. -/
theorem constraintNames_writes {catalog? : Option String} {statement : Statement}
    (h : b.constraintNames table catalog? = .ok statement) : b.Writes [] statement.sql := by
  rw [constraintNames] at h
  split at h
  · cases h
  · extract_lets folded first second at h
    have hfirst : b.Writes [] first := b.placeholder_writes 1
    have hsecond : b.Writes [] second := b.placeholder_writes 2
    clear_value first second
    cases h
    -- Long texts are written in two parts.
    have hlong {w w' : List Char} (hw : isCalm w = true) (hw' : isCalm w' = true) :
        b.Writes [] (String.ofList w ++ String.ofList w' ++ first) :=
      ((Writes.words hw).ends hw').append hfirst
    split
    · exact .begins rfl hfirst
    · exact hlong rfl rfl
    · exact (hlong rfl rfl).clause rfl hsecond |>.ends rfl
    · exact (hlong rfl rfl).ends rfl
    · exact (hlong rfl rfl).clause rfl hsecond |>.ends rfl
    · exact (hlong rfl rfl).clause rfl hsecond |>.ends rfl
    · exact (hlong rfl rfl).ends rfl
    · exact (hlong rfl rfl).ends rfl

/-! ## Indexes and sequences -/

theorem createIndex_writes {columns : List String} {unique : Bool}
    (h : b.createIndex table name columns unique = .ok sql) :
    b.Writes (name :: table :: columns) sql := by
  obtain ⟨index, hindex, h⟩ := bind_ok h
  obtain ⟨tableName, htable, h⟩ := bind_ok h
  obtain ⟨list, hlist, h⟩ := bind_ok h
  cases h
  have hunique : b.Writes [] (if unique then "UNIQUE " else "") := by
    split <;> exact .words rfl
  exact Writes.begins rfl hunique |>.clause rfl (ident_writes hindex) |>.clause rfl (ident_writes htable)
    |>.clause rfl (identList_writes hlist) |>.ends rfl

/-- Only MySQL names the table of an index that it drops. -/
theorem dropIndex_writes (h : b.dropIndex table name = .ok sql) :
    b.Writes (if b.dialect = .mySql then [name, table] else [name]) sql := by
  obtain ⟨index, hindex, h⟩ := bind_ok h
  split at h
  · obtain ⟨tableName, htable, h⟩ := bind_ok h
    cases h
    rw [if_pos ‹_›]
    exact Writes.begins rfl (ident_writes hindex) |>.clause rfl (ident_writes htable)
  · cases h
    rw [if_neg ‹_›]
    exact .begins rfl (ident_writes hindex)

theorem createSequence_writes {start increment : Int64}
    (h : b.createSequence name start increment = .ok sql) : b.Writes [name] sql := by
  obtain ⟨_, -, h⟩ := bind_ok h
  obtain ⟨sequence, hname, h⟩ := bind_ok h
  cases h
  have hnumber (n : Int64) : b.Writes [] (Value.intText n.toInt) :=
    .number (Phrase.intText _).contained (Value.isNumberChar_intText _)
  exact Writes.begins rfl (ident_writes hname) |>.clause rfl (hnumber start)
    |>.clause rfl (hnumber increment)

theorem dropSequence_writes (h : b.dropSequence name = .ok sql) : b.Writes [name] sql := by
  obtain ⟨_, -, h⟩ := bind_ok h
  obtain ⟨sequence, hname, h⟩ := bind_ok h
  cases h
  split <;> exact (Writes.begins rfl (ident_writes hname)).ends rfl

/-! ## Rows -/

theorem placeholders_writes (b : Builder) (i count : Nat) :
    ∀ mark ∈ b.placeholders i count, b.Writes [] mark := by
  rw [placeholders_eq_map]
  exact List.forall_mem_map.2 fun i _ => b.placeholder_writes i

/-- The values of a row are bound, so that only names are written. -/
theorem insertRow_writes {columns : List String} {values : List Value} {statement : Statement}
    (h : b.insertRow table columns values = .ok statement) :
    b.Writes (table :: columns) statement.sql := by
  rw [insertRow] at h
  obtain ⟨-, h⟩ := unless_ok h
  obtain ⟨tableName, htable, h⟩ := bind_ok h
  obtain ⟨list, hlist, h⟩ := bind_ok h
  cases h
  have hmarks : b.Writes [] (String.intercalate ", " (b.placeholders 1 values.length)) :=
    .intercalate_of_forall rfl (b.placeholders_writes 1 values.length)
  rw [← List.append_nil (table :: columns)]
  exact Writes.begins rfl (ident_writes htable) |>.clause rfl (identList_writes hlist)
    |>.clause rfl hmarks |>.ends rfl

/-- A condition is the one part that the builder does not look at. -/
theorem updateColumn_isCutShort_iff {condition? : Option String} {statement : Statement}
    (h : b.updateColumn table column value condition? = .ok statement) :
    IsCutShort b.dialect statement.sql ↔ (∃ name ∈ [table, column], b.ShowsSign name) ∨
      ∃ text ∈ condition?, IsCutShort b.dialect (String.ofList (Text.trim text.toList)) := by
  obtain ⟨tableName, htable, h⟩ := bind_ok h
  obtain ⟨columnName, hcolumn, h⟩ := bind_ok h
  cases h
  have hassigned : b.Writes [table, column] ("UPDATE " ++ tableName ++ " SET " ++ columnName ++ " = " ++
      b.dialect.placeholder 1) :=
    Writes.begins rfl (ident_writes htable) |>.clause rfl (ident_writes hcolumn)
      |>.clause rfl (b.placeholder_writes 1)
  have hempty : ¬IsCutShort b.dialect "" := not_isCutShort_of_notMem List.not_mem_nil
  rw [hassigned.isCutShort_append_iff]
  refine or_congr_right ?_
  cases condition? with
  | none => simpa [whereClause] using hempty
  | some text =>
    simp only [whereClause, Option.mem_some_iff, exists_eq_left']
    by_cases hblank : Text.trim text.toList = []
    · rw [hblank]
      exact Iff.rfl
    · have hwhere : b.Writes [] " WHERE " := .words rfl
      rw [if_neg (by simpa using hblank), hwhere.isCutShort_append_iff]
      simp

/-! ## Changes of a type -/

/-- One of the statements is cut short just if one of the names shows the sign. -/
def WritesAll (b : Builder) (names sqls : List String) : Prop :=
  (∃ sql ∈ sqls, IsCutShort b.dialect sql) ↔ ∃ name ∈ names, b.ShowsSign name

namespace WritesAll

theorem nil (b : Builder) : b.WritesAll [] [] :=
  iff_of_false nofun nofun

theorem cons (h : b.Writes names sql) (hs : b.WritesAll names' sqls) :
    b.WritesAll (names ++ names') (sql :: sqls) := by
  unfold WritesAll at hs ⊢
  simp only [List.mem_cons, List.mem_append, or_and_right, exists_or, exists_eq_left, h.isCutShort_iff, hs]

theorem singleton (h : b.Writes names sql) : b.WritesAll names [sql] := by
  rw [← List.append_nil names]
  exact cons h (nil b)

/-- A statement that is left out writes none of its names. -/
theorem of_option {sql? : Option String} (h : ∀ sql ∈ sql?, b.Writes names sql) :
    ∃ names', (∀ name ∈ names', name ∈ names) ∧ b.WritesAll names' sql?.toList := by
  cases sql? with
  | none => exact ⟨[], nofun, nil b⟩
  | some sql => exact ⟨names, fun _ hname => hname, singleton (h sql rfl)⟩

/-- The names of statements one after the other are those of both. -/
theorem append (h : b.WritesAll names sqls) (h' : b.WritesAll names' sqls') :
    b.WritesAll (names ++ names') (sqls ++ sqls') := by
  unfold WritesAll at h h' ⊢
  simp only [List.mem_append, or_and_right, exists_or, h, h']

/-- The order of the names makes no difference, nor how often one is given. -/
theorem congr (h : b.WritesAll names sqls) (hnames : ∀ name, name ∈ names ↔ name ∈ names') :
    b.WritesAll names' sqls := by
  unfold WritesAll at h ⊢
  simp only [h, hnames]

end WritesAll

theorem addColumn_writes {batch : Batch} (h : b.addColumn table spec = .ok batch) :
    b.WritesAll [table, spec.name] batch.statements := by
  rw [addColumn] at h
  split at h
  · obtain ⟨add, hadd, h⟩ := bind_ok h
    cases h
    exact .singleton (addClause_writes hadd)
  · obtain ⟨add, hadd, h⟩ := bind_ok h
    obtain ⟨fill, hfill, h⟩ := bind_ok h
    cases h
    exact (WritesAll.cons (addClause_writes hadd) (.singleton (backfill_writes hfill))).congr
      (by grind)

/-- The conditions on a row, each with the names of its column. -/
theorem keyConditions_writes {lists : List (List String)} {keys : List String}
    (h : List.Forall₂ b.Writes lists keys) (i : Nat) :
    List.Forall₂ b.Writes lists (b.keyConditions i keys) := by
  induction h generalizing i with
  | nil => exact .nil
  | @cons names key _ _ hkey _ ih =>
    have hcondition := hkey.clause (w := " = ".toList) rfl (b.placeholder_writes i)
    rw [List.append_nil] at hcondition
    exact .cons hcondition (ih (i + 1))

/-- The names of a decoding copy stand in its query or in its update. -/
theorem decodingCopy_writes {source target : String} {keyColumns : List String} {copy : Copy}
    (h : b.decodingCopy table source target keyColumns = .ok copy) :
    b.WritesAll (table :: source :: target :: keyColumns) copy.texts := by
  obtain ⟨tableName, htable, h⟩ := bind_ok h
  obtain ⟨sourceName, hsource, h⟩ := bind_ok h
  obtain ⟨targetName, htarget, h⟩ := bind_ok h
  obtain ⟨keys, hkeys, h⟩ := bind_ok h
  obtain ⟨-, h⟩ := unless_ok h
  cases h
  have hkeyNames : List.Forall₂ b.Writes (keyColumns.map ([·])) keys := Writes.of_mapM ident_writes hkeys
  have hsourceName : List.Forall₂ b.Writes [[source]] [sourceName] := .cons (ident_writes hsource) .nil
  have hselected : b.Writes (keyColumns ++ [source])
      (String.intercalate ", " (keys ++ [sourceName])) := by
    have hlist := Writes.intercalate (w := ", ".toList) rfl (List.rel_append hkeyNames hsourceName)
    rwa [List.flatten_append, ← List.flatMap_def, List.flatMap_singleton'] at hlist
  -- Without keys the source itself singles out the row.
  obtain ⟨row, hrow, hnames⟩ : ∃ row, List.Forall₂ b.Writes row
      (if keys.isEmpty then [sourceName] else keys) ∧
        ∀ name ∈ row.flatten, name ∈ source :: keyColumns := by
    split
    · exact ⟨_, hsourceName, by simp⟩
    · exact ⟨_, hkeyNames, fun name hname => List.mem_cons_of_mem _ (by simpa using hname)⟩
  have hconditions := Writes.intercalate (w := " AND ".toList) rfl (keyConditions_writes hrow 2)
  have hselect : b.Writes (keyColumns ++ [source] ++ [table] ++ [source]) ("SELECT " ++
      String.intercalate ", " (keys ++ [sourceName]) ++ " FROM " ++ tableName ++ " WHERE " ++
        sourceName ++ " IS NOT NULL") :=
    Writes.begins rfl hselected |>.clause rfl (ident_writes htable) |>.clause rfl (ident_writes hsource)
      |>.ends rfl
  refine (WritesAll.cons hselect <| .singleton <| Writes.begins rfl (ident_writes htable)
    |>.clause rfl (ident_writes htarget) |>.clause rfl (b.placeholder_writes 1)
    |>.clause rfl hconditions).congr fun name => ?_
  have hname := hnames name
  grind

/-- The names that a plan writes. The key columns are among them where the data are copied row by row. -/
def planNames (table : String) (target : ColumnSpec) (current : SqlType) (suffix : String)
    (keyColumns : List String) : List String :=
  [table, target.name, target.name ++ suffix] ++
    if current.isBinary && !target.type.isBinary then keyColumns else []

/-- The statements of a rebuild write the names of its plan. -/
theorem Parts.writes {target : ColumnSpec} {current : SqlType} {suffix : String}
    {keyColumns : List String} {plan : Rebuild}
    (h : b.Parts table target current suffix keyColumns plan) :
    b.WritesAll (planNames table target current suffix keyColumns) plan.texts := by
  have hcopy : b.WritesAll (planNames table target current suffix keyColumns) plan.copy.texts := by
    have hparts := h.copy
    unfold planNames
    split at hparts
    · rw [if_pos ‹_›]
      exact decodingCopy_writes hparts
    · obtain ⟨sql, hsql, hplan⟩ := map_ok hparts
      rw [hplan, if_neg ‹_›]
      exact (WritesAll.singleton (copyColumn_writes hsql)).congr (by grind)
  have hnullability : ∀ sql ∈ plan.restoreNullability?, b.Writes [table, target.name] sql := by
    intro sql hmem
    have hparts := h.restoreNullability
    split at hparts
    · rw [hparts] at hmem
      cases hmem
    · obtain ⟨typeName, sql, -, hsql, hplan⟩ := hparts
      rw [hplan] at hmem
      cases hmem
      exact setNullable_writes hsql
  have hdefault : ∀ sql ∈ plan.restoreDefault?, b.Writes [table, target.name] sql := by
    intro sql hmem
    have hparts := h.restoreDefault
    split at hparts
    · rw [hparts] at hmem
      cases hmem
    · obtain ⟨sql, hsql, hplan⟩ := hparts
      rw [hplan] at hmem
      cases hmem
      exact setDefault_writes hsql
  obtain ⟨names, hnames, hnullability⟩ := WritesAll.of_option hnullability
  obtain ⟨names', hnames', hdefault⟩ := WritesAll.of_option hdefault
  have hswap : b.WritesAll _ [plan.dropOld, plan.rename] :=
    .cons (dropColumn_writes h.dropOld) (.singleton (renameColumn_writes h.rename))
  refine (WritesAll.cons (addClause_writes h.addTemporary)
    ((hcopy.append hswap).append (hnullability.append hdefault))).congr fun name => ?_
  have hname := hnames name
  have hname' := hnames' name
  simp only [planNames, ColumnSpec.stagedAs]
  grind

theorem rebuildColumn_writes {target : ColumnSpec} {current : SqlType} {suffix : String}
    {keyColumns : List String} {plan : Rebuild}
    (h : b.rebuildColumn table target current suffix keyColumns = .ok plan) :
    b.WritesAll (planNames table target current suffix keyColumns) plan.texts :=
  (rebuildColumn_parts h).writes

theorem changeColumnInPlace_writes (h : b.changeColumnInPlace table spec = .ok sql) :
    b.Writes [table, spec.name] sql := by
  obtain ⟨tableName, htable, h⟩ := bind_ok h
  obtain ⟨columnName, hcolumn, h⟩ := bind_ok h
  obtain ⟨typeName, htype, h⟩ := bind_ok h
  split at h
  · cases h
    exact Writes.begins rfl (ident_writes htable) |>.clause rfl (ident_writes hcolumn)
      |>.clause rfl (nativeType_writes htype)
  · obtain ⟨definition, hdefinition, h⟩ := bind_ok h
    cases h
    exact Writes.begins rfl (ident_writes htable) |>.clause rfl (columnDefinition_writes hdefinition)
  · cases h
    exact Writes.begins rfl (ident_writes htable) |>.clause rfl (ident_writes hcolumn)
      |>.clause rfl (nativeType_writes htype)
  · cases h
  · cases h

/-- The names that a change of a type writes, in place or by a plan. -/
def changeNames (d : Dialect) (table : String) (column : ColumnSpec) (current : SqlType)
    (keyColumns : List String) : List String :=
  if d.changesColumnTypes then [table, column.name]
  else planNames table column current temporarySuffix keyColumns

/-- A change of type writes names as one statement, or as a rebuild. -/
theorem alterColumn_writes {current : SqlType} {keyColumns : List String} {change : ColumnChange}
    (h : b.alterColumn table spec current keyColumns = .ok change) :
    b.WritesAll (changeNames b.dialect table spec current keyColumns) change.texts := by
  rw [alterColumn] at h
  unfold changeNames
  split at h
  · obtain ⟨sql, hsql, h⟩ := bind_ok h
    cases h
    rw [if_pos ‹_›]
    exact .singleton (changeColumnInPlace_writes hsql)
  · obtain ⟨plan, hplan, h⟩ := bind_ok h
    cases h
    rw [if_neg ‹_›]
    exact rebuildColumn_writes hplan

/-! ## All tasks -/

/-- The names that a task writes. -/
def Task.writtenNames (d : Dialect) : Task → List String
  | .createTable table => table.name :: (table.columns.map (·.name) ++ table.primaryKey)
  | .dropTable table | .emptyTable table | .countRows table => [table]
  | .addColumn table column => [table, column.name]
  | .dropColumn table column => [table, column]
  | .renameColumn table oldName column => [table, oldName, column.name]
  | .alterColumn table column current keyColumns => changeNames d table column current keyColumns
  | .rebuildColumn table target current suffix keyColumns =>
    planNames table target current suffix keyColumns
  | .charArrayDetour table column => planNames table column .varchar detourSuffix []
  | .setNullable table column _ _ | .setDefault table column _ => [table, column]
  | .addConstraint c => c.table :: c.name :: constraintBodyNames c
  | .dropForeignKey table name | .dropUnique table name => [table, name]
  | .dropPrimaryKey table name => if d.dropsPrimaryKeyByName then [table, name] else [table]
  | .constraintNames _ _ => []
  | .createIndex table name columns _ => name :: table :: columns
  | .dropIndex table name => if d = .mySql then [name, table] else [name]
  | .createSequence name _ _ | .dropSequence name => [name]
  | .insertRow table columns _ => table :: columns
  | .updateColumn table column _ _ => [table, column]
  | .copyColumn table source target => [table, target, source]
  | .decodingCopy table source target keyColumns => table :: source :: target :: keyColumns

/-- One of the statements of a task is cut short just if one of its names shows the sign, or a text that
    is written as the caller has it. -/
def CutsShort (b : Builder) (task : Task) (sqls : List String) : Prop :=
  (∃ sql ∈ sqls, IsCutShort b.dialect sql) ↔
    (∃ name ∈ task.writtenNames b.dialect, b.ShowsSign name) ∨
      ∃ text ∈ task.raw b.dialect, IsCutShort b.dialect text

section CutsShort

variable {task : Task} {α : Type} {x : Except BuildError α}

/-- A task whose raw texts show no sign is cut short by its names alone. -/
theorem WritesAll.cutsShort (h : b.WritesAll (task.writtenNames b.dialect) sqls)
    (hraw : ∀ text ∈ task.raw b.dialect, ¬IsCutShort b.dialect text) : b.CutsShort task sqls :=
  h.trans (or_iff_left fun ⟨text, htext, hcut⟩ => hraw text htext hcut).symm

theorem cutsShort_of_texts_ok {texts : α → List String} (hraw : task.raw b.dialect = [])
    (hx : ∀ {a}, x = .ok a → b.WritesAll (task.writtenNames b.dialect) (texts a))
    (h : texts <$> x = .ok sqls) : b.CutsShort task sqls := by
  obtain ⟨a, ha, rfl⟩ := map_ok h
  exact (hx ha).cutsShort (hraw ▸ nofun)

theorem cutsShort_of_text_ok {text : α → String} (hraw : task.raw b.dialect = [])
    (hx : ∀ {a}, x = .ok a → b.Writes (task.writtenNames b.dialect) (text a))
    (h : (fun a => [text a]) <$> x = .ok sqls) : b.CutsShort task sqls :=
  cutsShort_of_texts_ok hraw (fun ha => .singleton (hx ha)) h

end CutsShort

/-- Whatever a builder is asked to write, a statement of it is cut short exactly if names are written
    bare and one of them holds the sign, or if a condition of the caller is. -/
theorem write_isCutShort_iff (b : Builder) (task : Task) (h : b.write task = .ok sqls) :
    (∃ sql ∈ sqls, IsCutShort b.dialect sql) ↔
      (b.options.quoted = false ∧ ∃ name ∈ task.writtenNames b.dialect, '#' ∈ name.toList) ∨
        ∃ text ∈ task.raw b.dialect, IsCutShort b.dialect text := by
  suffices hcuts : b.CutsShort task sqls by
    refine Iff.trans hcuts (or_congr_left ?_)
    simp only [ShowsSign, and_left_comm, exists_and_left]
  cases task with
  | createTable => exact cutsShort_of_text_ok rfl createTable_writes h
  | dropTable | emptyTable | countRows => exact cutsShort_of_text_ok rfl (named_writes rfl) h
  | addColumn => exact cutsShort_of_texts_ok rfl addColumn_writes h
  | dropColumn => exact cutsShort_of_text_ok rfl dropColumn_writes h
  | renameColumn => exact cutsShort_of_text_ok rfl renameColumn_writes h
  | alterColumn => exact cutsShort_of_texts_ok rfl alterColumn_writes h
  | rebuildColumn | charArrayDetour => exact cutsShort_of_texts_ok rfl rebuildColumn_writes h
  | setNullable table column typeName? nullable =>
    obtain ⟨sql, hsql, rfl⟩ := map_ok h
    refine (WritesAll.singleton (setNullable_writes hsql)).cutsShort fun text htext => ?_
    -- A type was written only if it was accepted.
    rw [Task.raw] at htext
    split at htext
    · obtain rfl : typeName? = some text := Option.mem_toList.1 htext
      exact (isTypeText_writes (setNullable_eq ‹_› hsql).1).not_isCutShort
    · cases htext
  | setDefault => exact cutsShort_of_text_ok rfl setDefault_writes h
  | addConstraint => exact cutsShort_of_text_ok rfl addConstraint_writes h
  | dropForeignKey => exact cutsShort_of_text_ok rfl dropForeignKey_writes h
  | dropUnique => exact cutsShort_of_text_ok rfl dropUnique_writes h
  | dropPrimaryKey => exact cutsShort_of_text_ok rfl dropPrimaryKey_writes h
  | constraintNames => exact cutsShort_of_text_ok rfl constraintNames_writes h
  | createIndex => exact cutsShort_of_text_ok rfl createIndex_writes h
  | dropIndex => exact cutsShort_of_text_ok rfl dropIndex_writes h
  | createSequence => exact cutsShort_of_text_ok rfl createSequence_writes h
  | dropSequence => exact cutsShort_of_text_ok rfl dropSequence_writes h
  | insertRow => exact cutsShort_of_text_ok rfl insertRow_writes h
  | updateColumn table column value condition? =>
    obtain ⟨statement, hstatement, rfl⟩ := map_ok h
    rw [CutsShort, Task.raw, Task.writtenNames]
    simpa using updateColumn_isCutShort_iff hstatement
  | copyColumn => exact cutsShort_of_text_ok rfl copyColumn_writes h
  | decodingCopy => exact cutsShort_of_texts_ok rfl decodingCopy_writes h

/-- The sign in a quoted name and within quotes in a condition. -/
theorem write_isCutShort_iff_quoted :
    let task : Task := .updateColumn "a#b" "c" .null (some "d = '#'")
    let sqls := ["UPDATE \x60a#b\x60 SET \x60c\x60 = ? WHERE d = '#'"]
    (quoting .mySql).write task = .ok sqls ∧ ¬∃ sql ∈ sqls, IsCutShort .mySql sql := by
  intro task sqls
  refine ⟨rfl, fun hcut => ?_⟩
  rcases (write_isCutShort_iff (quoting .mySql) task rfl).1 hcut with hnames | hraw
  · cases hnames.1
  · revert hraw
    decide

/-- A bare name with the sign is accepted, and the statement that empties its table is run on another
    one. -/
theorem emptyTable_cutShort :
    (Builder.mk .mySql {}).write (.emptyTable "a#b") = .ok ["DELETE FROM a#b"] ∧
      uncommented '\x60' false .outside "DELETE FROM a#b".toList = "DELETE FROM a".toList := by
  refine ⟨rfl, ?_⟩
  decide

end SchemaChange.Builder
