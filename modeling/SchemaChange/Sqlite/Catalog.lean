import SchemaChange.Number.Decimal
import SchemaChange.Sqlite.Schema

/-!
# The catalog of a SQLite schema

What SQLite reports of a declared schema. Names come as they were declared, types and defaults as
SQLite keeps them. Relations come in the order of their names, the foreign keys and the indexes of a
table last declared first.

A foreign key that does not state the columns it refers to means the primary key of the table, in
the order of that key.
-/

namespace SchemaChange.Sqlite

/-! ## Patterns of `LIKE`

In a pattern `%` stands for any text and `_` for any one character; other characters stand for
themselves, ASCII letters in either case.
-/

/-- Whether a test holds of the text or of one of its ends. -/
def anyEnd (test : List Char → Bool) : List Char → Bool
  | [] => test []
  | c :: s => test (c :: s) || anyEnd test s

/-- Whether the text matches the pattern, which comes first. -/
def like : List Char → List Char → Bool
  | [], s => s.isEmpty
  | c :: pattern, s =>
    if c = '%' then anyEnd (like pattern) s
    else match s with
      | [] => false
      | d :: s => (c == '_' || c.toLower == d.toLower) && like pattern s

/-! ## Reports -/

/-- The length that a type declares, such as the 255 of `VARCHAR(255)`: the first number between
    brackets. -/
def declaredLength? (declared : String) : Option UInt32 :=
  match declared.toList.dropWhile (· != '(') with
  | [] => none
  | _ :: rest =>
    if rest.contains ')' then
      Number.readUInt32? (Text.trim ((rest.takeWhile (· != ')')).takeWhile (· != ',')))
    else none

/-- Whether a relation is hidden from listings: SQLite keeps names that begin so for itself. -/
def isHidden (name : String) : Bool :=
  like "sqlite_%".toList name.toList

/-- Whether a name passes a filter. -/
def passes (filter? : Option String) (name : String) : Bool :=
  match filter? with
  | none => true
  | some filter => Text.sameName name filter

namespace Table

/-- The columns of a table. -/
def columnInfos (t : Table) : List ColumnInfo :=
  t.columns.zipIdx.map fun (c, i) =>
    let declared := reportedType c.declared
    { table := t.name
      name := c.name
      ordinal := i + 1
      declared
      sqlType := SqlType.ofDeclared declared
      nullable := !c.notNull
      default? := c.default?.map reportedDefault
      maxLength? := declaredLength? declared }

/-- The columns of a primary key from a position on, without those that stand earlier in the key.
    Positions are counted no further than one beyond the number of columns, which only a key that names a
    column twice reaches. -/
def keyColumnsFrom (t : Table) (position : Nat) (earlier : List String) :
    List String → List PrimaryKeyColumn
  | [] => []
  | key :: keys =>
    let rest := keyColumnsFrom t (position + 1) (key :: earlier) keys
    if earlier.any (Text.sameName · key) then rest
    else
      { table := t.name
        column := t.spelling key
        constraint? := none
        position := min position (t.columns.length + 1) } :: rest

/-- The columns of the primary key in the order of the key. -/
def primaryKeyColumns (t : Table) : List PrimaryKeyColumn :=
  t.keyColumnsFrom 1 [] t.primaryKey

/-- What an index reports for a column. A name that no column of the table has is indexed as a text,
    which is no column and has no name. -/
def indexedName (t : Table) (name : String) : String :=
  ((t.column? name).map (·.name)).getD ""

/-- The index that a primary key makes, if it makes one. -/
def keyIndex? (t : Table) : Option IndexInfo :=
  if t.primaryKey.isEmpty || t.keyIsRowId then none
  else some
    { table := t.name
      name := "sqlite_autoindex_" ++ t.name ++ "_1"
      columns := t.primaryKey.map t.spelling
      unique := true }

end Table

namespace Schema

/-- The tables and views that are listed, in the order of their names. -/
def relations (s : Schema) (filter? : Option String) : List TableInfo :=
  let all := s.tables.map (fun t => TableInfo.mk t.name .table) ++
    s.views.map fun v => TableInfo.mk v .view
  let listed := all.filter fun r => !isHidden r.name && passes filter? r.name
  listed.mergeSort fun a b => decide (a.name ≤ b.name)

/-- The tables that are listed, in the order of their names. -/
def listedTables (s : Schema) (filter? : Option String) : List Table :=
  (s.relations filter?).filterMap fun r =>
    match r.kind with
    | .table => s.table? r.name
    | .view => none

/-- The column that a foreign key refers to at a position, counted from zero: the stated one, or the one
    of the other table's primary key, or none. -/
def referencedColumn (s : Schema) (k : ForeignKey) (i : Nat) : String :=
  match k.references? with
  | some columns => columns[i]?.getD ""
  | none =>
    (((s.table? k.referencedTable).bind (·.primaryKeyColumns[i]?)).map (·.column)).getD ""

/-- The columns of one foreign key of a table. -/
def foreignKeyColumns (s : Schema) (t : Table) (k : ForeignKey) : List ForeignKeyColumn :=
  k.columns.zipIdx.map fun (column, i) =>
    { constraint? := none
      table := t.name
      column := t.spelling column
      referencedTable := k.referencedTable
      referencedColumn := s.referencedColumn k i
      position := i + 1
      onDelete := declaredAction k.onDelete }

/-- The columns of tables. -/
def columns (s : Schema) (table? column? : Option String) : List ColumnInfo :=
  (s.listedTables table?).flatMap fun t => t.columnInfos.filter (passes column? ·.name)

/-- The primary keys of tables. -/
def primaryKeys (s : Schema) (table? : Option String) : List PrimaryKeyColumn :=
  (s.listedTables table?).flatMap Table.primaryKeyColumns

/-- The foreign keys that tables declare. -/
def importedKeys (s : Schema) (table? : Option String) : List ForeignKeyColumn :=
  (s.listedTables table?).flatMap fun t => t.foreignKeys.reverse.flatMap (s.foreignKeyColumns t)

/-- The foreign keys from tables to other ones. -/
def crossReference (s : Schema) (parent? foreign? : Option String) : List ForeignKeyColumn :=
  (s.importedKeys foreign?).filter (passes parent? ·.referencedTable)

/-- The indexes of one table. -/
def tableIndexes (s : Schema) (t : Table) : List IndexInfo :=
  let made := s.indexes.reverse.filter (Text.sameName ·.table t.name)
  made.map (fun i =>
    { table := t.name
      name := i.name
      columns := i.columns.map t.indexedName
      unique := i.unique }) ++
    t.keyIndex?.toList

/-- The indexes of tables. -/
def indexInfos (s : Schema) (table? : Option String) : List IndexInfo :=
  (s.listedTables table?).flatMap s.tableIndexes

end Schema

end SchemaChange.Sqlite
