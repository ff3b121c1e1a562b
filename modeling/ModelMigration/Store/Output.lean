import ModelMigration.Disk.Access
import ModelMigration.Error

/-!
# Outputs

An output takes compiled migrations. In memory it holds one text for all the spellings of a path,
and shows the spelling that came first; on disk it makes the directories that are missing.
-/

namespace ModelMigration

/-- What is asked of an output. -/
structure Output (m : Type → Type) where
  put : Path → String → m (Except Error Unit)

/-- The files of an output in memory: by components, the first spelling and the last text. -/
abbrev OutputMap := Std.ExtTreeMap (List Path.Component) (Path × String)

namespace OutputMap

/-- The last text put under a path, however it was spelled. -/
def get? (o : OutputMap) (path : Path) : Option String := o[path.components]?.map Prod.snd

/-- The output with a text under a path, which keeps its first spelling. -/
def put (o : OutputMap) (path : Path) (text : String) : OutputMap :=
  match o[path.components]? with
  | some (first, _) => o.insert path.components (first, text)
  | none => o.insert path.components (path, text)

/-- The files in the order of their components. -/
def files (o : OutputMap) : List (Path × String) := Std.ExtTreeMap.values o

/-- The spellings of the paths, in the order of their components. -/
def paths (o : OutputMap) : List Path := o.files.map Prod.fst

/-- The output in a state. -/
def output : Output (StateM OutputMap) where
  put path text := do
    modify fun o => o.put path text
    return .ok ()

end OutputMap

namespace Disk

variable {m : Type → Type} [Monad m]

/-- Makes the directory of a path, unless there is one. -/
def makeParent (disk : Access m) (path : Path) : m (Except Error Unit) := do
  match path.parent? with
  | none => return .ok ()
  | some parent =>
      if parent.text = "" then return .ok ()
      else if ← disk.present parent then return .ok ()
      else
        match ← disk.makeDirectories parent with
        | .ok () => return .ok ()
        | .error refusal => return .error (.directoryCreate parent refusal.message)

/-- The output on disk. -/
def output (disk : Access m) : Output m where
  put path text := do
    match ← makeParent disk path with
    | .error error => return .error error
    | .ok () =>
        match ← disk.writeText path text with
        | .ok () => return .ok ()
        | .error refusal => return .error (.fileWrite path refusal.message)

end Disk

end ModelMigration
