import ModelMigration.Config
import ModelMigration.Model
import ModelMigration.Statement
import ModelMigration.Text.Search

/-!
# Extensions

An extension changes the text of a migration before it is kept, or refuses it. Extensions run in
order, each on the text that the one before it left, and the first refusal ends the run.
-/

namespace ModelMigration

/-- A change of compiled migrations. -/
structure Extension where
  name : String
  apply : String → Model → Config → Except Error String

namespace Extension

/-- The refusal of an extension, which names one extension at least. -/
def refusal (name : String) : Error → Error
  | .extension other message => .extension other message
  | error => .extension name error.message

/-- The outcome of one extension. -/
def run (e : Extension) (text : String) (model : Model) (config : Config) : Except Error String :=
  match e.apply text model config with
  | .ok text => .ok text
  | .error error => .error (refusal e.name error)

/-- The outcome of the extensions, one after another. -/
def runAll (model : Model) (config : Config) : List Extension → String → Except Error String
  | [], text => .ok text
  | e :: extensions, text => do runAll model config extensions (← e.run text model config)

/-- The texts that the extensions are run on, in order, up to the one that refuses. -/
def inputs (model : Model) (config : Config) : List Extension → String → List String
  | [], _ => []
  | e :: extensions, text =>
      text :: match e.run text model config with
        | .ok next => inputs model config extensions next
        | .error _ => []

/-! ## Extensions of general use -/

/-- The characters behind the last line break. -/
def lastLine (text : List Char) : List Char := (text.reverse.takeWhile (· ≠ '\n')).reverse

/-- The statement that declares the column for the time of deletion. -/
def softDeletesStatement : String := "$table->softDeletes();"

/--
Adds a column for the time of deletion: its statement goes on a line of its own behind the
timestamps, after the same characters that the line of the timestamps starts with.
-/
def softDeletes : Extension where
  name := "soft-deletes"
  apply text _ _ :=
    match Text.cut? timestampsStatement.toList text.toList with
    | none => .error (.extension "soft-deletes" "migration has no timestamps statement")
    | some (before, rest) =>
        .ok (String.ofList (before ++ timestampsStatement.toList ++ '\n' :: lastLine before ++
          softDeletesStatement.toList ++ rest))

/-- Adds a text at the end. -/
def append (name addition : String) : Extension := ⟨name, fun text _ _ => .ok (text ++ addition)⟩

/-- Adds a text at the start. -/
def prepend (name addition : String) : Extension := ⟨name, fun text _ _ => .ok (addition ++ text)⟩

/-- Replaces every occurrence of a text. -/
def replacing (name old new : String) : Extension :=
  ⟨name, fun text _ _ => .ok (Text.replaced old new text)⟩

/-- Adds a summary at the end: the number of fields, the table name and the directory template. -/
def summary (name : String) : Extension :=
  ⟨name, fun text model config =>
    .ok (text ++ "[" ++ toString model.fields.length ++ "|" ++ config.table?.getD "-" ++ "|" ++
      config.migrations ++ "]")⟩

/-- Refuses every migration. -/
def refusing (name : String) (error : Error) : Extension := ⟨name, fun _ _ _ => .error error⟩

end Extension

end ModelMigration
