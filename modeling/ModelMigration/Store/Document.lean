import ModelMigration.Disk.Access
import ModelMigration.Document
import ModelMigration.Migration

/-!
# Documents on disk

Models, configurations and templates in files of their own.
-/

namespace ModelMigration.Disk

variable {m : Type → Type} [Monad m]

/-- The text of a document, which has to be there. -/
def readDocument (disk : Access m) (path : Path) : m (Except Error String) := do
  if !(← disk.present path) then return .error (.fileRead path "file does not exist")
  else
    match ← disk.readText path with
    | .ok text => return .ok text
    | .error refusal => return .error (.fileRead path refusal.message)

/-- An error of a document's text, told as one of reading its file. -/
def inFile (path : Path) (document : String) : Error → Error
  | .json fault => .fileRead path ("Invalid " ++ document ++ " file format: " ++ fault.message)
  | error => error

/-- The valid model in a file. -/
def loadModel (disk : Access m) (path : Path) : m (Except Error Model) := do
  match ← readDocument disk path with
  | .error error => return .error error
  | .ok text => return (Model.load text).mapError (inFile path "model")

/-- The valid configuration in a file. -/
def loadConfig (disk : Access m) (path : Path) : m (Except Error Config) := do
  match ← readDocument disk path with
  | .error error => return .error error
  | .ok text => return (Config.load text).mapError (inFile path "configuration")

/-- The template in a file, named by the stem of the file name. -/
def loadStub (disk : Access m) (path : Path) : m (Except Error Stub) := do
  match ← disk.readText path with
  | .error refusal => return .error (.fileRead path refusal.message)
  | .ok text => return .ok ⟨path.fileStem?.getD "stub", text⟩

/-- Writes a document; its directory has to be there. -/
def saveDocument (disk : Access m) (path : Path) (text : String) : m (Except Error Unit) := do
  match ← disk.writeText path text with
  | .ok () => return .ok ()
  | .error refusal => return .error (.fileWrite path refusal.message)

/-- Writes a model. -/
def saveModel (disk : Access m) (path : Path) (model : Model) : m (Except Error Unit) :=
  saveDocument disk path model.toJson

/-- Writes a configuration. -/
def saveConfig (disk : Access m) (path : Path) (config : Config) : m (Except Error Unit) :=
  saveDocument disk path config.toJson

end ModelMigration.Disk
