import SchemaChange.Value

/-!
# Statements and batches

A statement with the values bound to its marks, and an ordered list of statements that together make
one change and can be written as a script.
-/

namespace SchemaChange

/-- A statement with the values bound to its marks, by position. -/
structure Statement where
  sql : String
  params : List Value
  deriving DecidableEq

/-- An ordered list of statements that together make one schema change. -/
structure Batch where
  statements : List String := []
  deriving DecidableEq, Repr

namespace Batch

/-- The batch of one statement. -/
def single (sql : String) : Batch :=
  ⟨[sql]⟩

/-- The batch with a further statement. -/
def push (b : Batch) (sql : String) : Batch :=
  ⟨b.statements ++ [sql]⟩

/-- One batch after the other. -/
def append (a b : Batch) : Batch :=
  ⟨a.statements ++ b.statements⟩

/-- Whether there is no statement. -/
def isEmpty (b : Batch) : Bool :=
  b.statements.isEmpty

/-- The number of statements. -/
def size (b : Batch) : Nat :=
  b.statements.length

/-- The statements as one script, each ended by a semicolon and on lines of its own. -/
def script (b : Batch) : String :=
  String.intercalate ";\n" b.statements ++ (if b.isEmpty then "" else ";")

end Batch

end SchemaChange
