import ModelMigration.PathTemplate

/-!
# Settings of a run

Where the project and the cache are, and how migrations are written.
-/

namespace ModelMigration

/-- The settings of a run. -/
structure Settings where
  /-- The directory that templates and a relative cache directory are meant from. -/
  basePath : Path
  cacheDirectory : Path
  cacheExtension : String
  sourceExtension : String
  /-- The level at which the statements of columns are indented. -/
  indentLevel : Nat
  /-- The seconds between the timestamps of two migrations. -/
  stepSeconds : Int
deriving DecidableEq, Repr

namespace Settings

/-- The settings that hold where none are given. -/
def standard : Settings where
  basePath := ⟨"."⟩
  cacheDirectory := ⟨"scaffolder-config/cache"⟩
  cacheExtension := ".scf"
  sourceExtension := ".php"
  indentLevel := 3
  stepSeconds := 5

/-- The directory of the cache. -/
def cachePath (s : Settings) : Path :=
  if s.cacheDirectory.isAbsolute then s.cacheDirectory else s.basePath.join s.cacheDirectory

/-- The directory that a template stands for. -/
def resolve (s : Settings) (template : String) : Path := PathTemplate.resolve s.basePath template

end Settings

end ModelMigration
