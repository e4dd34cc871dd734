import SchemaChange.Config
import SchemaChange.Record.Basic

/-!
# Configurations as records
-/

namespace SchemaChange

open SchemaChange.Record

/-- A declared kind of database as JSON, by the spelling of configurations. -/
def DatabaseType.toRecord (type : DatabaseType) : Json :=
  .string type.id

/-- The kind of database of a record. -/
def DatabaseType.ofRecord? (j : Json) : Option DatabaseType :=
  (text? j).bind DatabaseType.read?

instance : Recorded DatabaseType := ⟨DatabaseType.toRecord, DatabaseType.ofRecord?⟩

/-- A dictionary of texts. -/
def Dictionary.ofRecord? : Json → Option (Dictionary String)
  | .object fields => fields.mapM fun (key, value) => (text? value).map (key, ·)
  | _ => none

/-- A configuration as JSON. -/
def ConnectionConfig.toRecord (c : ConnectionConfig) : Json :=
  .ofFields [("driver", .string c.driver), ("url", .string c.url),
    ("user", ofOption .string c.user?), ("password", ofOption .string c.password?),
    ("database_type", ofOption DatabaseType.toRecord c.databaseType?),
    ("params", .object (c.params.map fun (key, value) => (key, .string value)))]

/-- The configuration of a record. -/
def ConnectionConfig.ofRecord? (j : Json) : Option ConnectionConfig := do
  match ← fields? [("driver", false), ("url", false), ("user", true), ("password", true),
      ("database_type", true), ("params", true)] j with
  | [driver, url, user, password, databaseType, params] =>
    return {
      driver := ← driver.bind text?
      url := ← url.bind text?
      user? := ← optional? text? user
      password? := ← optional? text? password
      databaseType? := ← optional? DatabaseType.ofRecord? databaseType
      params := ← orDefault? [] Dictionary.ofRecord? params }
  | _ => none

instance : Recorded ConnectionConfig := ⟨ConnectionConfig.toRecord, ConnectionConfig.ofRecord?⟩

end SchemaChange
