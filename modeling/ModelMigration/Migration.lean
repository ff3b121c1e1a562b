import ModelMigration.Naming
import ModelMigration.Statement
import ModelMigration.Template

/-!
# Migrations

The text of a migration: a template with the name of the model, the name of its table and the
statements of its columns put in.
-/

namespace ModelMigration

/-- The template of a migration that creates a table and can drop it again. -/
def Stub.migration : Stub where
  name := "migration"
  text := String.intercalate "\n" [
    "<?php",
    "",
    "use Illuminate\\Database\\Schema\\Blueprint;",
    "use Illuminate\\Database\\Migrations\\Migration;",
    "",
    "class Create\x7b\x7bclass_name\x7d\x7dsTable extends Migration",
    "\x7b",
    "    /**",
    "     * Run the migrations.",
    "     *",
    "     * @return void",
    "     */",
    "    public function up()",
    "    \x7b",
    "        Schema::create('\x7b\x7btable_name\x7d\x7d', function (Blueprint $table) \x7b",
    "\x7b\x7bfields\x7d\x7d        \x7d);",
    "    \x7d",
    "",
    "    /**",
    "     * Reverse the migrations.",
    "     *",
    "     * @return void",
    "     */",
    "    public function down()",
    "    \x7b",
    "        Schema::drop('\x7b\x7btable_name\x7d\x7d');",
    "    \x7d",
    "\x7d",
    ""]

/-- The values of a migration's tokens. -/
def migrationValues (model table fields : String) : Placeholders :=
  .ofList [("class_name", model), ("table_name", table), ("fields", fields)]

/-- The text of the migration of a model, before extensions. -/
def renderMigration (stub : Stub) (name : String) (model : Model) (config : Config) (i : Indent) :
    Except Error String := do
  let fields ← model.block i
  return stub.render (migrationValues name (tableName config name) fields)

end ModelMigration
