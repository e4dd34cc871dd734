import SchemaChange.Config
import SchemaChange.Toml.Document

/-!
# Configurations in TOML

A configuration file has the texts `driver` and `url`, optionally `user`, `password` and
`database_type`, and a table `params` of texts. Other entries are passed over.
-/

namespace SchemaChange.ConnectionConfig

open SchemaChange.Toml (Entries Node)

/-- The text of an entry, if it is there. -/
def textEntry? (es : Entries) (key : String) : Except DatabaseError (Option String) :=
  match es.get? key with
  | none => .ok none
  | some (.text s) => .ok (some s)
  | some _ => .error (.toml (key ++ " must be a text"))

/-- The text of an entry that must be there. -/
def requiredText (es : Entries) (key : String) : Except DatabaseError String := do
  match ← textEntry? es key with
  | some s => return s
  | none => throw (.toml ("missing " ++ key))

/-- The declared kind of database. -/
def databaseTypeEntry? (es : Entries) : Except DatabaseError (Option DatabaseType) := do
  match ← textEntry? es "database_type" with
  | none => return none
  | some s =>
    match DatabaseType.ofText s with
    | .ok type => return some type
    | .error e => throw (.toml e.message)

/-- The settings for the driver. -/
def paramEntries (es : Entries) : Except DatabaseError (Dictionary String) :=
  match es.get? "params" with
  | none => .ok []
  | some node =>
    match node.entries? with
    | none => .error (.toml "params must be a table")
    | some params => do
      let pairs ← params.mapM fun (key, value) =>
        match value with
        | .text s => .ok (key, s)
        | _ => .error (.toml (key ++ " must be a text"))
      return Dictionary.ofList pairs

/-- The configuration that a document holds. -/
def ofEntries (es : Entries) : Except DatabaseError ConnectionConfig := do
  return {
    driver := ← requiredText es "driver"
    url := ← requiredText es "url"
    user? := ← textEntry? es "user"
    password? := ← textEntry? es "password"
    databaseType? := ← databaseTypeEntry? es
    params := ← paramEntries es }

/-- The configuration in a TOML text, checked to name a driver and a URL. -/
def ofToml (text : String) : Except DatabaseError ConnectionConfig := do
  match Toml.read? text with
  | none => throw (.toml "not a document")
  | some es =>
    let config ← ofEntries es
    config.validate
    return config

end SchemaChange.ConnectionConfig
