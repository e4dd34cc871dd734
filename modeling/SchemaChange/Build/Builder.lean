import SchemaChange.Dialect.Literal
import SchemaChange.Spec
import SchemaChange.Text.Property

/-!
# The statement builder

A builder writes statements in one dialect. It renders names (`Builder.ident`), lists of columns,
native types, literals and column definitions; the statements themselves are in the modules beside
this one. Nothing here needs a connection, and a malformed description is refused before any text
is made.

A name may be qualified by a schema, with a point between the parts. With quoting on, each part is
folded as the database stores names and quoted. With quoting off it stands as it is, and has to be
a plain word.
-/

namespace SchemaChange

/-- How a builder writes names. -/
structure BuilderOptions where
  /-- Fold names and quote them; otherwise they are written bare. -/
  quoted : Bool := false
  /-- The case rule that the connection reports; the dialect's own if absent. -/
  case? : Option CaseRule := none
  deriving DecidableEq, Repr

/-- Writes statements in one dialect. -/
structure Builder where
  dialect : Dialect
  options : BuilderOptions := {}
  deriving DecidableEq, Repr

/-- Whether a name can be written bare: a letter or underscore, and then letters, digits, and the signs
    `_`, `$` and `#`. -/
def isBareName : List Char → Bool
  | [] => false
  | c :: cs =>
    (Text.isAlphabetic c || c == '_') &&
      cs.all fun c => Text.isAlphanumeric c || c == '_' || c == '$' || c == '#'

/-- Whether a text can be the type of a catalog, such as `VARCHAR(255)` or `NUMBER(10,2)`: letters,
    digits, spaces, brackets, commas and underscores, and not only blanks. -/
def isTypeText (text : String) : Bool :=
  !Text.isBlankText text &&
    text.toList.all fun c =>
      Text.isAlphanumeric c || c == ' ' || c == '(' || c == ')' || c == ',' || c == '_'

namespace Builder

variable (b : Builder)

/-- How names are folded. -/
def caseRule : CaseRule :=
  b.options.case?.getD b.dialect.caseRule

/-- One part of a name as it is written in a statement. -/
def identPart? (part : List Char) : Option (List Char) :=
  if part.isEmpty then none
  else if b.options.quoted then some (Text.quoted b.dialect.quoteChar (b.caseRule.fold part))
  else if isBareName part then some part
  else none

/-- A name, possibly with its schema before it, as it is written in a statement. -/
def ident (name : String) : Except BuildError String :=
  if Text.isBlankText name || name.toList.contains '\x00' then .error (.invalidIdentifier name)
  else match (name.toList.splitOn '.').mapM b.identPart? with
    | some parts => .ok (String.ofList (['.'].intercalate parts))
    | none => .error (.invalidIdentifier name)

/-- A list of columns as it is written in a statement: not empty, and no name twice. -/
def identList (owner : String) (names : List String) : Except BuildError String := do
  if names.isEmpty then throw (.emptyColumnList owner)
  ensureDistinct owner names
  return String.intercalate ", " (← names.mapM b.ident)

/-- The native type of a column. -/
def nativeType (column : ColumnSpec) : Except BuildError String := do
  column.validate
  match b.dialect.nativeType? column.type column.length? with
  | some typeName => return typeName
  | none => throw (.unmappedType column.type b.dialect)

/-- The literal of a value. -/
def literal (value : Value) : Except BuildError String :=
  match b.dialect.literal? value with
  | some text => .ok text
  | none => .error (.invalidLiteral value.display)

/-- The clause of a column's default. -/
def defaultClause : Option Value → Except BuildError String
  | none => .ok ""
  | some value => return " DEFAULT " ++ (← b.literal value)

/-- The definition of a column: its name, its type, its default and whether it may be NULL. -/
def columnDefinition (column : ColumnSpec) : Except BuildError String := do
  let name ← b.ident column.name
  let typeName ← b.nativeType column
  let default ← b.defaultClause column.default?
  return name ++ " " ++ typeName ++ default ++ (if column.nullable then "" else " NOT NULL")

end Builder

end SchemaChange
