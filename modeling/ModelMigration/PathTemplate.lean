import ModelMigration.Path
import ModelMigration.Template

/-!
# Path templates

A directory is given as a template with tokens for the base path of the project and for three of
its folders. A template that comes out relative is meant from the base path.
-/

namespace ModelMigration.PathTemplate

/-- The base path without slashes and backslashes at its end. -/
def trimmedBase (base : Path) : String :=
  String.ofList (base.text.toList.reverse.dropWhile fun c => c = '/' || c = '\\').reverse

/-- The tokens of a path template with their values, in the order in which they are put in. -/
def values (base : Path) : List (String × String) := [
  ("base_path", trimmedBase base),
  ("app_path", trimmedBase base ++ "/app"),
  ("database_path", trimmedBase base ++ "/database"),
  ("storage_path", trimmedBase base ++ "/storage")]

/-- The template with the values of its tokens. -/
def expand (base : Path) (template : String) : Path := ⟨substitute template ⟨values base⟩⟩

/-- The directory that a template stands for. -/
def resolve (base : Path) (template : String) : Path :=
  let path := expand base template
  if path.isAbsolute then path else base.join path

end ModelMigration.PathTemplate
