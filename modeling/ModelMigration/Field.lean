import ModelMigration.ColumnType
import ModelMigration.ForeignKey
import ModelMigration.IndexKind
import ModelMigration.Modifier

/-!
# Fields and columns

A field is a column as it is written in a model definition, its directives still text. A column is
a field whose directives have been read.
-/

namespace ModelMigration

/-- A field of a model. -/
structure Field where
  name : String
  /-- The column type, as text. -/
  type : String
  modifiers : String
  index : IndexKind
  foreignKey : String
deriving DecidableEq, Repr

/-- A column with its directives. -/
structure Column where
  name : String
  type : ColumnType
  modifiers : List Modifier
  index : IndexKind
  foreignKey? : Option ForeignKey
deriving DecidableEq, Repr

namespace Field

/-- A field with a name and a type only. -/
def plain (name type : String) : Field := ⟨name, type, "", .none, ""⟩

/-- Whether the field is the primary key. -/
def isPrimary (f : Field) : Bool := f.index.isPrimary

/-- Checks the name, the type and the index, in this order. -/
def validate (f : Field) : Except Error Unit :=
  if f.name = "" then .error (.validation "Field name cannot be empty")
  else if !isIdentifier f.name then
    .error (.fieldValidation f.name "Field name is not a valid identifier")
  else if !ColumnType.isBuiltIn f.type && !isIdentifier f.type then
    .error (.fieldValidation f.name ("Invalid column type '" ++ f.type ++ "'"))
  else if !isIdentifier f.index.text then .error (.invalidIndex f.name f.index.text)
  else .ok ()

/-- The column that a field declares. -/
def column (f : Field) : Except Error Column := do
  f.validate
  let modifiers ← Modifier.parse f.name f.modifiers
  let foreignKey? ← ForeignKey.parse f.name f.foreignKey
  return ⟨f.name, ⟨f.type⟩, modifiers, f.index, foreignKey?⟩

end Field

/-- Whether the column is the primary key. -/
def Column.isPrimary (c : Column) : Bool := c.index.isPrimary

end ModelMigration
