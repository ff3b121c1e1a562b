import ModelMigration.Config
import ModelMigration.Path
import ModelMigration.Text.Casing
import ModelMigration.Text.Words
import ModelMigration.Timestamp

/-!
# Names

The name of a table, the name of a migration file, and the name of a model that has none but that
of its file.
-/

namespace ModelMigration

/-- The name of a table: the configured one or the model's name with an `s`, in lower case. -/
def tableName (config : Config) (model : String) : String :=
  match config.table? with
  | some table => Text.lowered table
  | none => Text.lowered (model ++ "s")

/-- The timestamp at the front of a file name. -/
def Timestamp.stamp (t : Timestamp) : String := t.format "_" "_" ""

/-- The name of the migration file of a model. -/
def migrationFileName (t : Timestamp) (model ext : String) : String :=
  t.stamp ++ "_create_" ++ Text.lowered model ++ "s_table" ++ ext

/-- The name of the model in a file: the stem of the file name in Pascal case. -/
def modelName? (path : Path) : Option String :=
  (path.fileStem?.filter fun stem => stem ≠ "").map Text.pascalCase

end ModelMigration
