import SchemaChange.Record.Value
import SchemaChange.Spec

/-!
# Descriptions as records
-/

namespace SchemaChange

open SchemaChange.Record

/-- A column type as JSON. -/
def ColumnType.toRecord (type : ColumnType) : Json :=
  .string type.name

/-- The column type of a record. -/
def ColumnType.ofRecord? : Json → Option ColumnType :=
  choice? ColumnType.all ColumnType.name

instance : Recorded ColumnType := ⟨ColumnType.toRecord, ColumnType.ofRecord?⟩

/-- A dialect as JSON. -/
def Dialect.toRecord (d : Dialect) : Json :=
  .string d.name

/-- The dialect of a record. -/
def Dialect.ofRecord? : Json → Option Dialect :=
  choice? Dialect.all Dialect.name

instance : Recorded Dialect := ⟨Dialect.toRecord, Dialect.ofRecord?⟩

/-- A column description as JSON. -/
def ColumnSpec.toRecord (c : ColumnSpec) : Json :=
  .ofFields [("name", .string c.name), ("ty", c.type.toRecord),
    ("length", ofOption (fun n => .integer n.toNat) c.length?), ("nullable", .bool c.nullable),
    ("default_value", ofOption Value.toRecord c.default?)]

/-- The column description of a record. -/
def ColumnSpec.ofRecord? (j : Json) : Option ColumnSpec := do
  match ← fields? (required ["name", "ty", "length", "nullable", "default_value"]) j with
  | [name, type, length, nullable, default] =>
    return {
      name := ← name.bind text?
      type := ← type.bind ColumnType.ofRecord?
      length? := ← optional? uint32? length
      nullable := ← nullable.bind bool?
      default? := ← optional? Value.ofRecord? default }
  | _ => none

instance : Recorded ColumnSpec := ⟨ColumnSpec.toRecord, ColumnSpec.ofRecord?⟩

/-- A table description as JSON. -/
def TableSpec.toRecord (t : TableSpec) : Json :=
  .ofFields [("name", .string t.name), ("columns", .array (t.columns.map ColumnSpec.toRecord)),
    ("primary_key", ofTexts t.primaryKey)]

/-- The table description of a record. -/
def TableSpec.ofRecord? (j : Json) : Option TableSpec := do
  match ← fields? (required ["name", "columns", "primary_key"]) j with
  | [name, columns, key] =>
    return {
      name := ← name.bind text?
      columns := ← columns.bind (list? ColumnSpec.ofRecord?)
      primaryKey := ← key.bind (list? text?) }
  | _ => none

instance : Recorded TableSpec := ⟨TableSpec.toRecord, TableSpec.ofRecord?⟩

/-- The kind of a constraint as JSON. -/
def ConstraintKind.toRecord : ConstraintKind → Json
  | primaryKey => .string "PrimaryKey"
  | unique => .string "Unique"
  | foreignKey table columns cascade =>
    .object [("ForeignKey", .ofFields [("referenced_table", .string table),
      ("referenced_columns", ofTexts columns), ("cascade_on_delete", .bool cascade)])]

/-- The content of a foreign key, an object of its fields. -/
def ConstraintKind.foreignKeyOfRecord? (j : Json) : Option ConstraintKind := do
  match ← fields? (required ["referenced_table", "referenced_columns", "cascade_on_delete"]) j with
  | [table, columns, cascade] =>
    return .foreignKey (← table.bind text?) (← columns.bind (list? text?)) (← cascade.bind bool?)
  | _ => none

/-- The kind of constraint of a record. -/
def ConstraintKind.ofRecord? : Json → Option ConstraintKind
  | .object [("ForeignKey", .object content)] => foreignKeyOfRecord? (.object content)
  | j => (choice? [false, true] (fun u => if u then "Unique" else "PrimaryKey") j).map fun u =>
    if u then unique else primaryKey

instance : Recorded ConstraintKind := ⟨ConstraintKind.toRecord, ConstraintKind.ofRecord?⟩

/-- A constraint description as JSON. -/
def ConstraintSpec.toRecord (c : ConstraintSpec) : Json :=
  .ofFields [("table", .string c.table), ("name", .string c.name), ("columns", ofTexts c.columns),
    ("kind", c.kind.toRecord)]

/-- The constraint description of a record. -/
def ConstraintSpec.ofRecord? (j : Json) : Option ConstraintSpec := do
  match ← fields? (required ["table", "name", "columns", "kind"]) j with
  | [table, name, columns, kind] =>
    return {
      table := ← table.bind text?
      name := ← name.bind text?
      columns := ← columns.bind (list? text?)
      kind := ← kind.bind ConstraintKind.ofRecord? }
  | _ => none

instance : Recorded ConstraintSpec := ⟨ConstraintSpec.toRecord, ConstraintSpec.ofRecord?⟩

end SchemaChange
