import ModelMigration.Config
import ModelMigration.Json.Value
import ModelMigration.Model

/-!
# Model and configuration documents

Models and configurations are kept as JSON texts. Reading accepts more than writing produces: keys
in any order, keys that are not known, and keys left out that have a default.
-/

namespace ModelMigration

open Json

namespace Field

/-- Reads the type of a field: a record that holds its name. -/
def typeScanner : Scanner String := fun cs => do
  let (values, rest) ← record "struct FieldType" [⟨"db", text, none⟩] cs
  .ok (values.getD 0 "", rest)

/-- The keys of a field. -/
def slots : List (Slot String) := [
  ⟨"name", text, none⟩,
  ⟨"type", typeScanner, none⟩,
  ⟨"modifiers", text, some ""⟩,
  ⟨"index", text, some "none"⟩,
  ⟨"foreignKey", text, some ""⟩]

/-- The field of the values of its keys, in their order. -/
def ofValues (values : List String) : Field where
  name := values.getD 0 ""
  type := values.getD 1 ""
  modifiers := values.getD 2 ""
  index := .ofText (values.getD 3 "")
  foreignKey := values.getD 4 ""

/-- Reads a field. -/
def scanner : Scanner Field := fun cs => do
  let (values, rest) ← record "struct FieldDescriptor" slots cs
  .ok (ofValues values, rest)

/-- The field as it is written: all its keys, in their order. -/
def json (f : Field) : Value :=
  .object [
    ("name", .text f.name),
    ("type", .object [("db", .text f.type)]),
    ("modifiers", .text f.modifiers),
    ("index", .text f.index.text),
    ("foreignKey", .text f.foreignKey)]

end Field

namespace Model

/-- The keys of a model. -/
def slots : List (Slot (List Field)) := [⟨"fields", list Field.scanner, some []⟩]

/-- Reads a model. -/
def scanner : Scanner Model := fun cs => do
  let (values, rest) ← record "struct ModelData" slots cs
  .ok (⟨values.getD 0 []⟩, rest)

/-- The model as it is written. -/
def json (m : Model) : Value := .object [("fields", .list (m.fields.map Field.json))]

/-- The model that a JSON text holds, whether it is valid or not. -/
def ofJson (s : String) : Except Error Model :=
  match readWhole scanner s with
  | .ok m => .ok m
  | .error fault => .error (.json fault)

/-- The JSON text of a model. -/
def toJson (m : Model) : String := m.json.indented

/-- The valid model that a JSON text holds. -/
def load (s : String) : Except Error Model := do
  let m ← ofJson s
  m.validate
  return m

end Model

namespace Config

/-- Reads the paths of a configuration: a record of templates. -/
def pathsScanner : Scanner String := fun cs => do
  let (values, rest) ← record "struct PathsConfig" [⟨"migrations", text, none⟩] cs
  .ok (values.getD 0 "", rest)

/-- The keys of a configuration. -/
def slots : List (Slot (Option String)) := [
  ⟨"tableName", textOrNull, some none⟩,
  ⟨"paths", fun cs => do
    let (migrations, rest) ← pathsScanner cs
    .ok (some migrations, rest), none⟩]

/-- Reads a configuration. -/
def scanner : Scanner Config := fun cs => do
  let (values, rest) ← record "struct ScaffolderConfig" slots cs
  .ok (⟨values.getD 0 none, (values.getD 1 none).getD ""⟩, rest)

/-- The configuration as it is written, without the key of a table name that is not set. -/
def json (c : Config) : Value :=
  let paths := ("paths", .object [("migrations", .text c.migrations)])
  .object (match c.tableName? with
    | some name => [("tableName", .text name), paths]
    | none => [paths])

/-- The configuration that a JSON text holds, whether it is valid or not. -/
def ofJson (s : String) : Except Error Config :=
  match readWhole scanner s with
  | .ok c => .ok c
  | .error fault => .error (.json fault)

/-- The JSON text of a configuration. -/
def toJson (c : Config) : String := c.json.indented

/-- The valid configuration that a JSON text holds. -/
def load (s : String) : Except Error Config := do
  let c ← ofJson s
  c.validate
  return c

end Config

end ModelMigration
