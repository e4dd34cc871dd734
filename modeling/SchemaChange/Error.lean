import SchemaChange.Dialect

/-!
# Errors

Why an operation on a live schema fails: what it was asked for is malformed (`BuildError`), or a
database, its catalog, its driver or the reading of a configuration reports an error (`DatabaseError`).
A failed look-up in a catalog is relabelled (`DatabaseError.inCatalog`) so that it is told apart from a
rejected statement; a lost connection keeps its own label.
-/

namespace SchemaChange

/-! ## Malformed descriptions -/

/-- Why a description yields no statement. Nothing has been sent to a database when one of
    these arises. -/
inductive BuildError where
  | invalidIdentifier (name : String)
  | missingLength (column : String) (type : ColumnType)
  | invalidLength (column : String) (length : Nat)
  | unmappedType (type : ColumnType) (dialect : Dialect)
  | valueCountMismatch (columns values : Nat)
  | referenceCountMismatch (key : String) (columns references : Nat)
  | emptyColumnList (owner : String)
  | duplicateColumn (owner column : String)
  | unknownColumn (table column : String)
  | missingType (column : String) (dialect : Dialect)
  | invalidLiteral (display : String)
  | constraintKindMismatch (constraint expected : String)
  | unsupported (operation : String) (dialect : Dialect)
  deriving DecidableEq, Repr

/-- The name of the cause. -/
def BuildError.name : BuildError → String
  | invalidIdentifier _ => "InvalidIdentifier"
  | missingLength _ _ => "MissingLength"
  | invalidLength _ _ => "InvalidLength"
  | unmappedType _ _ => "UnmappedType"
  | valueCountMismatch _ _ => "ValueCountMismatch"
  | referenceCountMismatch _ _ _ => "ReferenceCountMismatch"
  | emptyColumnList _ => "EmptyColumnList"
  | duplicateColumn _ _ => "DuplicateColumn"
  | unknownColumn _ _ => "UnknownColumn"
  | missingType _ _ => "MissingType"
  | invalidLiteral _ => "InvalidLiteral"
  | constraintKindMismatch _ _ => "ConstraintKindMismatch"
  | unsupported _ _ => "Unsupported"

/-- The message of the error. -/
def BuildError.message : BuildError → String
  | invalidIdentifier name => "invalid identifier '" ++ name ++ "'"
  | missingLength column type =>
    "column '" ++ column ++ "' of type " ++ type.name ++ " requires a length"
  | invalidLength column length =>
    "column '" ++ column ++ "' cannot have length " ++ length.repr
  | unmappedType type dialect =>
    "type " ++ type.name ++ " has no mapping for " ++ dialect.display
  | valueCountMismatch columns values =>
    "column count " ++ columns.repr ++ " does not match value count " ++ values.repr
  | referenceCountMismatch key columns references =>
    "foreign key '" ++ key ++ "' has " ++ columns.repr ++ " key columns but " ++ references.repr ++
      " referenced columns"
  | emptyColumnList owner => "'" ++ owner ++ "' needs at least one column"
  | duplicateColumn owner column =>
    "'" ++ owner ++ "' lists column '" ++ column ++ "' more than once"
  | unknownColumn table column =>
    "column '" ++ column ++ "' is not declared in table '" ++ table ++ "'"
  | missingType column dialect =>
    dialect.display ++ " needs the column type of '" ++ column ++ "' for this statement"
  | invalidLiteral display => "value cannot be rendered as a literal: " ++ display
  | constraintKindMismatch constraint expected =>
    "constraint '" ++ constraint ++ "' is not a " ++ expected ++ " constraint"
  | unsupported operation dialect => operation ++ " is not supported by " ++ dialect.display

/-! ## Errors of databases and configurations -/

/-- What went wrong outside this library. -/
inductive DatabaseError where
  /-- The connection could not be established or has been lost. -/
  | connection (reason : String)
  /-- The database rejected a statement. -/
  | execution (sql reason : String)
  /-- A look-up in the catalog failed. -/
  | metadata (reason : String)
  | configuration (reason : String)
  | notSupported (reason : String)
  /-- A file could not be read. -/
  | file (reason : String)
  /-- A text is not TOML, or not the TOML of a configuration. -/
  | toml (reason : String)
  deriving DecidableEq, Repr

namespace DatabaseError

/-- The name of the cause. -/
def name : DatabaseError → String
  | connection _ => "Connection"
  | execution _ _ => "Execution"
  | metadata _ => "Metadata"
  | configuration _ => "Configuration"
  | notSupported _ => "NotSupported"
  | file _ => "File"
  | toml _ => "Toml"

/-- The message of the error. -/
def message : DatabaseError → String
  | connection reason => "Connection error: " ++ reason
  | execution sql reason => "Execution failed for \x60" ++ sql ++ "\x60: " ++ reason
  | metadata reason => "Metadata error: " ++ reason
  | configuration reason => "Configuration error: " ++ reason
  | notSupported reason => "Not supported: " ++ reason
  | file reason => "IO error: " ++ reason
  | toml reason => "TOML error: " ++ reason

/-- The error of a failed look-up in a catalog: a connection error as it is, every other one as a
    metadata error that begins with the context of the look-up. -/
def inCatalog (context : String) : DatabaseError → DatabaseError
  | metadata reason => metadata (context ++ ": " ++ reason)
  | connection reason => connection reason
  | e => metadata (context ++ ": " ++ e.message)

/-- Whether a statement was rejected. -/
def isExecution : DatabaseError → Bool
  | execution _ _ => true
  | _ => false

/-- Whether a look-up in the catalog failed. -/
def isMetadata : DatabaseError → Bool
  | metadata _ => true
  | _ => false

/-- Whether there is no connection. -/
def isConnection : DatabaseError → Bool
  | connection _ => true
  | _ => false

end DatabaseError

/-! ## Failures of operations -/

/-- Why an operation failed. -/
inductive Failure where
  | build (e : BuildError)
  | database (e : DatabaseError)
  deriving DecidableEq, Repr

namespace Failure

/-- The message of the cause. -/
def message : Failure → String
  | build e => e.message
  | database e => e.message

/-- Whether the request was malformed. -/
def isBuild : Failure → Bool
  | build _ => true
  | database _ => false

/-- Whether there is no connection. -/
def isConnection : Failure → Bool
  | build _ => false
  | database e => e.isConnection

/-- Whether a statement was rejected. -/
def isExecution : Failure → Bool
  | build _ => false
  | database e => e.isExecution

/-- Whether a look-up in the catalog failed. -/
def isMetadata : Failure → Bool
  | build _ => false
  | database e => e.isMetadata

end Failure

end SchemaChange
