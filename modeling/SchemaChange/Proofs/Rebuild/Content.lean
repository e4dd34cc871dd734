import Mathlib.Logic.Function.Basic
import SchemaChange.Build.Rebuild

/-!
# The content of a table

What the statements of a rebuild mean. A table is a list of columns and a list of rows; a `Change` is
a statement on it, with its text (`Change.text`) and its effect (`Change.effect?`). A statement that
adds a column that is there, or names one that is not, has no effect: it has to be rejected.

How a name in a statement is resolved to a column of the table is up to the database. It is a
parameter `col` throughout.
-/

namespace SchemaChange

/-- A stored row: the values in its cells, by column. -/
abbrev Cells := String → Value

/-- What a table holds. The cells of a row in columns that the table does not have are of no
    account. -/
structure Content where
  columns : List String
  rows : List Cells

/-- A statement on a table. -/
inductive Change where
  /-- Adds a column, with its default in the rows that are there. -/
  | add (column : ColumnSpec)
  /-- Sets one column to the value of another. -/
  | assign (source target : String)
  /-- Sets a column in the rows where the condition columns hold given values. The values are bound:
      first the one that is set, then those of the condition columns. -/
  | write (target : String) (conditions : List String)
  | drop (column : String)
  | rename (old : String) (column : ColumnSpec)
  | forbidNull (column : ColumnSpec)
  /-- Gives a column a default for rows to come. -/
  | setDefault (column : String) (value : Value)

namespace Change

/-- The conditions that columns hold bound values, numbered from `i`. -/
def conditionTexts (d : Dialect) (i : Nat) (names : List String) : List String :=
  (names.zipIdx i).map fun (name, i) => name ++ " = " ++ d.placeholder i

/-- The text of the statement. -/
def text (b : Builder) (table : String) : Change → Except BuildError String
  | add column => b.addClause table column
  | assign source target => b.copyColumn table source target
  | write target conditions => do
    let tableName ← b.ident table
    let targetName ← b.ident target
    let names ← conditions.mapM b.ident
    return "UPDATE " ++ tableName ++ " SET " ++ targetName ++ " = " ++ b.dialect.placeholder 1 ++
      " WHERE " ++ String.intercalate " AND " (conditionTexts b.dialect 2 names)
  | drop column => b.dropColumn table column
  | rename old column => b.renameColumn table old column
  | forbidNull column => do
    let typeName ← b.nativeType column
    b.setNullable table column.name (some typeName) false
  | setDefault column value => b.setDefault table column value

variable (col : String → String)

/-- The values of a row in several columns. -/
def key (columns : List String) (row : Cells) : List Value :=
  columns.map fun c => row (col c)

/-- The effect of the statement with bound values; none if it has to be rejected. NULL equals nothing,
    not even NULL. -/
def effect? (params : List Value) (d : Content) : Change → Option Content
  | add column =>
    if col column.name ∈ d.columns then none
    else some
      { columns := d.columns ++ [col column.name]
        rows := d.rows.map fun row =>
          Function.update row (col column.name) (column.default?.getD .null) }
  | assign source target =>
    if col source ∈ d.columns ∧ col target ∈ d.columns then
      some { d with rows := d.rows.map fun row => Function.update row (col target) (row (col source)) }
    else none
  | write target conditions =>
    match params with
    | [] => none
    | value :: bound =>
      if (∀ c ∈ target :: conditions, col c ∈ d.columns) ∧ bound.length = conditions.length then
        some
          { d with
            rows := d.rows.map fun row =>
              if key col conditions row = bound ∧ .null ∉ bound then
                Function.update row (col target) value
              else row }
      else none
  | drop column =>
    if col column ∈ d.columns then
      some
        { columns := d.columns.filter (· ≠ col column)
          rows := d.rows.map fun row => Function.update row (col column) .null }
    else none
  | rename old column =>
    if col old ∈ d.columns ∧ col column.name ∉ d.columns then
      some
        { columns := d.columns.map fun c => if c = col old then col column.name else c
          rows := d.rows.map fun row =>
            Function.update (Function.update row (col column.name) (row (col old))) (col old) .null }
    else none
  | forbidNull column => if col column.name ∈ d.columns then some d else none
  | setDefault column _ => if col column ∈ d.columns then some d else none

end Change

/-! ## Selections -/

/-- The text of the query for key columns and a source, where the source is not NULL. -/
def selectionText (b : Builder) (table source : String) (keyColumns : List String) :
    Except BuildError String := do
  let tableName ← b.ident table
  let sourceName ← b.ident source
  let names ← keyColumns.mapM b.ident
  return "SELECT " ++ String.intercalate ", " (names ++ [sourceName]) ++ " FROM " ++ tableName ++
    " WHERE " ++ sourceName ++ " IS NOT NULL"

/-- What the query returns. -/
def Content.selection (d : Content) (col : String → String) (source : String)
    (keyColumns : List String) : List (List Value) :=
  (d.rows.filter fun row => !(row (col source)).isNull).map fun row =>
    Change.key col keyColumns row ++ [row (col source)]

end SchemaChange
