import ModelMigration.Error
import ModelMigration.Identifier
import ModelMigration.Text.Blank

/-!
# Configuration

Where the migrations of a model go, and the name of its table where it is not derived.
-/

namespace ModelMigration

/-- The configuration of a model. -/
structure Config where
  /-- The name of the table, as written. -/
  tableName? : Option String
  /-- The template of the directory that migrations are written to. -/
  migrations : String
deriving DecidableEq, Repr

namespace Config

/-- The name of the table; the empty name counts as none. -/
def table? (c : Config) : Option String := c.tableName?.filter fun name => name ≠ ""

/-- Checks that there is a directory template, and that a name of a table is an identifier. -/
def validate (c : Config) : Except Error Unit :=
  if Text.isBlankText c.migrations then .error (.missingConfig "paths.migrations")
  else
    match c.table? with
    | some table =>
        if isIdentifier table then .ok ()
        else .error (.invalidConfig ("tableName '" ++ table ++ "' is not a valid identifier"))
    | none => .ok ()

end Config

end ModelMigration
