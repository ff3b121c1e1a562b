import ModelMigration.Json.Fault
import ModelMigration.Path

/-!
# Errors

What can go wrong between a model file and a written migration, and how it is said.
-/

namespace ModelMigration

/-- What went wrong. -/
inductive Error where
  | validation (message : String)
  | fieldValidation (field message : String)
  | invalidModifier (field directive message : String)
  | invalidForeignKey (field value : String)
  | invalidIndex (field value : String)
  /-- An extension refused a compiled migration. -/
  | extension (name message : String)
  | cacheRead (key message : String)
  | cacheWrite (key message : String)
  /-- There is no cache entry of the key. -/
  | cacheMiss (key : String)
  | fileRead (path : Path) (message : String)
  | fileWrite (path : Path) (message : String)
  | directoryCreate (path : Path) (message : String)
  | json (fault : Json.Fault)
  | invalidConfig (message : String)
  /-- A setting that has to be there is blank. -/
  | missingConfig (setting : String)
deriving DecidableEq, Repr

namespace Error

/-- What is said of an error. -/
def message : Error → String
  | validation message => "Validation error: " ++ message
  | fieldValidation field message => "Field validation failed for '" ++ field ++ "': " ++ message
  | invalidModifier field directive message =>
      "Invalid modifier '" ++ directive ++ "' on field '" ++ field ++ "': " ++ message
  | invalidForeignKey field value =>
      "Invalid foreign key '" ++ value ++ "' on field '" ++ field ++
        "': expected '<referenced_column>:<referenced_table>'"
  | invalidIndex field value => "Invalid index '" ++ value ++ "' on field '" ++ field ++ "'"
  | extension name message => "Extension '" ++ name ++ "' failed: " ++ message
  | cacheRead key message => "Failed to read cache entry '" ++ key ++ "': " ++ message
  | cacheWrite key message => "Failed to write cache entry '" ++ key ++ "': " ++ message
  | cacheMiss key => "Cache entry not found: " ++ key
  | fileRead path message => "Failed to read file '" ++ path.text ++ "': " ++ message
  | fileWrite path message => "Failed to write file '" ++ path.text ++ "': " ++ message
  | directoryCreate path message => "Failed to create directory '" ++ path.text ++ "': " ++ message
  | json fault => "JSON serialization error: " ++ fault.message
  | invalidConfig message => "Invalid configuration: " ++ message
  | missingConfig setting => "Missing required configuration: " ++ setting

/-- Whether the input is at fault: a field, a directive or the configuration. -/
def isValidation : Error → Bool
  | validation _ | fieldValidation .. | invalidModifier .. | invalidForeignKey .. | invalidIndex ..
  | invalidConfig _ | missingConfig _ => true
  | _ => false

/-- Whether the cache is at fault. -/
def isCache : Error → Bool
  | cacheRead .. | cacheWrite .. | cacheMiss _ => true
  | _ => false

/-- Whether reading or writing files is at fault. -/
def isFile : Error → Bool
  | fileRead .. | fileWrite .. | directoryCreate .. => true
  | _ => false

end Error

end ModelMigration
