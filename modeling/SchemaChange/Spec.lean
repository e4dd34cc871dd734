import SchemaChange.Error
import SchemaChange.Text.Basic
import SchemaChange.Value

/-!
# Columns, tables and constraints to be made

The descriptions of columns, tables and named constraints that are to be created, added or changed, each
with what is demanded of it (`validate`). A list of columns names none twice.
-/

namespace SchemaChange

/-! ## Columns -/

/-- A column to create, add or change. -/
structure ColumnSpec where
  name : String
  type : ColumnType
  length? : Option UInt32 := none
  nullable : Bool := true
  default? : Option Value := none
  deriving DecidableEq

namespace ColumnSpec

/-- The column with a default; NULL is no default. -/
def withDefault (c : ColumnSpec) (value : Value) : ColumnSpec :=
  { c with default? := if value.isNull then none else some value }

/-- The column under another name. -/
def renamed (c : ColumnSpec) (name : String) : ColumnSpec :=
  { c with name }

/-- A column needs a name, text needs a length, and no length is zero. -/
def validate (c : ColumnSpec) : Except BuildError Unit :=
  if Text.isBlankText c.name then .error (.invalidIdentifier c.name)
  else match c.length? with
    | none => if c.type.requiresLength then .error (.missingLength c.name c.type) else .ok ()
    | some n => if n = 0 then .error (.invalidLength c.name 0) else .ok ()

end ColumnSpec

/-- The first name of a list that repeats one of `seen` or an earlier one, ignoring the case of ASCII
    letters. -/
def firstRepeated? (seen : List String) : List String → Option String
  | [] => none
  | name :: names =>
    if seen.any (Text.sameName · name) then some name else firstRepeated? (name :: seen) names

/-- Refuses a list of columns in which one is named twice. -/
def ensureDistinct (owner : String) (columns : List String) : Except BuildError Unit :=
  match firstRepeated? [] columns with
  | none => .ok ()
  | some column => .error (.duplicateColumn owner column)

/-! ## Tables -/

/-- A table to create. -/
structure TableSpec where
  name : String
  columns : List ColumnSpec := []
  primaryKey : List String := []
  deriving DecidableEq

namespace TableSpec

/-- Adds a name to a key unless it is there already, ignoring the case of ASCII letters. -/
def addKeyColumn (key : List String) (name : String) : List String :=
  if key.any (Text.sameName · name) then key else key ++ [name]

/-- The table with further primary key columns; repeated names are kept once. -/
def withPrimaryKey (t : TableSpec) (names : List String) : TableSpec :=
  { t with primaryKey := names.foldl addKeyColumn t.primaryKey }

/-- The column of a name, ignoring the case of ASCII letters. -/
def findColumn? (t : TableSpec) (name : String) : Option ColumnSpec :=
  t.columns.find? (Text.sameName ·.name name)

/-- A table needs columns, each of them valid, of distinct names, and a key over these columns. -/
def validate (t : TableSpec) : Except BuildError Unit := do
  if t.columns.isEmpty then throw (.emptyColumnList t.name)
  t.columns.forM ColumnSpec.validate
  ensureDistinct t.name (t.columns.map (·.name))
  match t.primaryKey.find? fun key => (t.findColumn? key).isNone with
  | some key => throw (.unknownColumn t.name key)
  | none => pure ()

end TableSpec

/-! ## Constraints

A named constraint is a primary key, a unique set of columns, or a foreign key, whose columns are paired
by position with the columns they refer to.
-/

/-- The kinds of constraints. -/
inductive ConstraintKind where
  | primaryKey
  | unique
  | foreignKey (referencedTable : String) (referencedColumns : List String) (cascade : Bool)
  deriving DecidableEq, Repr

/-- A named constraint on a table. -/
structure ConstraintSpec where
  table : String
  name : String
  columns : List String
  kind : ConstraintKind
  deriving DecidableEq, Repr

namespace ConstraintSpec

/-- Whether the constraint is a foreign key. -/
def isForeignKey (c : ConstraintSpec) : Bool :=
  match c.kind with
  | .foreignKey .. => true
  | _ => false

/-- A constraint needs columns, each named once; a foreign key refers to as many columns, each named
    once. -/
def validate (c : ConstraintSpec) : Except BuildError Unit := do
  if c.columns.isEmpty then throw (.emptyColumnList c.name)
  ensureDistinct c.name c.columns
  match c.kind with
  | .foreignKey _ references _ =>
    if references.length ≠ c.columns.length then
      throw (.referenceCountMismatch c.name c.columns.length references.length)
    ensureDistinct c.name references
  | _ => pure ()

end ConstraintSpec

end SchemaChange
