import SchemaChange.CaseRule
import SchemaChange.Catalog
import SchemaChange.QueryResult
import SchemaChange.Record.Basic

/-!
# Catalog entries as records
-/

namespace SchemaChange

open SchemaChange.Record

/-- A class of column types as JSON. -/
def SqlType.toRecord (type : SqlType) : Json :=
  .string type.name

/-- The class of column types of a record. -/
def SqlType.ofRecord? : Json → Option SqlType :=
  choice? SqlType.all SqlType.name

instance : Recorded SqlType := ⟨SqlType.toRecord, SqlType.ofRecord?⟩

/-- A class of values as JSON. -/
def ValueKind.toRecord (kind : ValueKind) : Json :=
  .string kind.name

/-- The class of values of a record. -/
def ValueKind.ofRecord? : Json → Option ValueKind :=
  choice? ValueKind.all ValueKind.name

instance : Recorded ValueKind := ⟨ValueKind.toRecord, ValueKind.ofRecord?⟩

/-- A case rule as JSON. -/
def CaseRule.toRecord (rule : CaseRule) : Json :=
  .string rule.name

/-- The case rule of a record. -/
def CaseRule.ofRecord? : Json → Option CaseRule :=
  choice? CaseRule.all CaseRule.name

instance : Recorded CaseRule := ⟨CaseRule.toRecord, CaseRule.ofRecord?⟩

/-- A kind of relation as JSON. -/
def TableKind.toRecord (kind : TableKind) : Json :=
  .string kind.name

/-- The kind of relation of a record. -/
def TableKind.ofRecord? : Json → Option TableKind :=
  choice? [.table, .view] TableKind.name

instance : Recorded TableKind := ⟨TableKind.toRecord, TableKind.ofRecord?⟩

/-- A delete action as JSON. -/
def ForeignKeyAction.toRecord (action : ForeignKeyAction) : Json :=
  .string action.name

/-- The delete action of a record. -/
def ForeignKeyAction.ofRecord? : Json → Option ForeignKeyAction :=
  choice? ForeignKeyAction.all ForeignKeyAction.name

instance : Recorded ForeignKeyAction := ⟨ForeignKeyAction.toRecord, ForeignKeyAction.ofRecord?⟩

/-- A result column as JSON. -/
def ResultColumn.toRecord (c : ResultColumn) : Json :=
  .ofFields [("name", .string c.name), ("data_type", .string c.declared),
    ("sql_type", c.sqlType.toRecord)]

/-- The result column of a record; without a type it has none. -/
def ResultColumn.ofRecord? (j : Json) : Option ResultColumn := do
  match ← fields? [("name", false), ("data_type", true), ("sql_type", true)] j with
  | [name, declared, sqlType] =>
    return {
      name := ← name.bind text?
      declared := ← orDefault? "" text? declared
      sqlType := ← orDefault? .other SqlType.ofRecord? sqlType }
  | _ => none

instance : Recorded ResultColumn := ⟨ResultColumn.toRecord, ResultColumn.ofRecord?⟩

/-- A table or view as JSON. -/
def TableInfo.toRecord (t : TableInfo) : Json :=
  .ofFields [("name", .string t.name), ("table_type", t.kind.toRecord)]

/-- The table or view of a record. -/
def TableInfo.ofRecord? (j : Json) : Option TableInfo := do
  match ← fields? (required ["name", "table_type"]) j with
  | [name, kind] => return ⟨← name.bind text?, ← kind.bind TableKind.ofRecord?⟩
  | _ => none

instance : Recorded TableInfo := ⟨TableInfo.toRecord, TableInfo.ofRecord?⟩

/-- A column as JSON. -/
def ColumnInfo.toRecord (c : ColumnInfo) : Json :=
  .ofFields [("table", .string c.table), ("name", .string c.name), ("ordinal", .integer c.ordinal),
    ("data_type", .string c.declared), ("sql_type", c.sqlType.toRecord),
    ("nullable", .bool c.nullable), ("default_value", ofOption .string c.default?),
    ("max_length", ofOption (fun n => .integer n.toNat) c.maxLength?)]

/-- The column of a record. -/
def ColumnInfo.ofRecord? (j : Json) : Option ColumnInfo := do
  match ← fields? (required ["table", "name", "ordinal", "data_type", "sql_type", "nullable",
      "default_value", "max_length"]) j with
  | [table, name, ordinal, declared, sqlType, nullable, default, maxLength] =>
    return {
      table := ← table.bind text?
      name := ← name.bind text?
      ordinal := ← ordinal.bind natural?
      declared := ← declared.bind text?
      sqlType := ← sqlType.bind SqlType.ofRecord?
      nullable := ← nullable.bind bool?
      default? := ← optional? text? default
      maxLength? := ← optional? uint32? maxLength }
  | _ => none

instance : Recorded ColumnInfo := ⟨ColumnInfo.toRecord, ColumnInfo.ofRecord?⟩

/-- A primary key column as JSON. -/
def PrimaryKeyColumn.toRecord (k : PrimaryKeyColumn) : Json :=
  .ofFields [("table", .string k.table), ("column", .string k.column),
    ("constraint_name", ofOption .string k.constraint?), ("key_seq", .integer k.position)]

/-- The primary key column of a record. -/
def PrimaryKeyColumn.ofRecord? (j : Json) : Option PrimaryKeyColumn := do
  match ← fields? (required ["table", "column", "constraint_name", "key_seq"]) j with
  | [table, column, constraint, position] =>
    return {
      table := ← table.bind text?
      column := ← column.bind text?
      constraint? := ← optional? text? constraint
      position := ← position.bind natural? }
  | _ => none

instance : Recorded PrimaryKeyColumn := ⟨PrimaryKeyColumn.toRecord, PrimaryKeyColumn.ofRecord?⟩

/-- A foreign key column as JSON. -/
def ForeignKeyColumn.toRecord (k : ForeignKeyColumn) : Json :=
  .ofFields [("fk_name", ofOption .string k.constraint?), ("fk_table", .string k.table),
    ("fk_column", .string k.column), ("pk_table", .string k.referencedTable),
    ("pk_column", .string k.referencedColumn), ("key_seq", .integer k.position),
    ("on_delete", k.onDelete.toRecord)]

/-- The foreign key column of a record. -/
def ForeignKeyColumn.ofRecord? (j : Json) : Option ForeignKeyColumn := do
  match ← fields? (required ["fk_name", "fk_table", "fk_column", "pk_table", "pk_column", "key_seq",
      "on_delete"]) j with
  | [constraint, table, column, referencedTable, referencedColumn, position, onDelete] =>
    return {
      constraint? := ← optional? text? constraint
      table := ← table.bind text?
      column := ← column.bind text?
      referencedTable := ← referencedTable.bind text?
      referencedColumn := ← referencedColumn.bind text?
      position := ← position.bind natural?
      onDelete := ← onDelete.bind ForeignKeyAction.ofRecord? }
  | _ => none

instance : Recorded ForeignKeyColumn := ⟨ForeignKeyColumn.toRecord, ForeignKeyColumn.ofRecord?⟩

/-- An index as JSON. -/
def IndexInfo.toRecord (i : IndexInfo) : Json :=
  .ofFields [("table", .string i.table), ("name", .string i.name), ("columns", ofTexts i.columns),
    ("is_unique", .bool i.unique)]

/-- The index of a record. -/
def IndexInfo.ofRecord? (j : Json) : Option IndexInfo := do
  match ← fields? (required ["table", "name", "columns", "is_unique"]) j with
  | [table, name, columns, unique] =>
    return {
      table := ← table.bind text?
      name := ← name.bind text?
      columns := ← columns.bind (list? text?)
      unique := ← unique.bind bool? }
  | _ => none

instance : Recorded IndexInfo := ⟨IndexInfo.toRecord, IndexInfo.ofRecord?⟩

end SchemaChange
