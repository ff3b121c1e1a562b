import ModelMigration.Path

/-!
# Access to files

The operations on files that a run needs, what they may be refused for, and what is built from
them: reading a text, and making a directory with those above it.
-/

namespace ModelMigration.Disk

/-- What an operation is refused for. -/
inductive Refusal where
  | notFound
  | alreadyThere
  | notDirectory
  | isDirectory
  | nameTooLong
  | nulInName
  /-- The bytes of a file are no text. -/
  | notText
  | other (message : String)
deriving DecidableEq, Repr

/-- The message of a refusal with the number that the system gives it. -/
def Refusal.numbered (message : String) (number : Nat) : String :=
  message ++ " (os error " ++ toString number ++ ")"

/-- What is said of a refusal. -/
def Refusal.message : Refusal → String
  | notFound => numbered "No such file or directory" 2
  | alreadyThere => numbered "File exists" 17
  | notDirectory => numbered "Not a directory" 20
  | isDirectory => numbered "Is a directory" 21
  | nameTooLong => numbered "File name too long" 36
  | nulInName => "file name contained an unexpected NUL byte"
  | notText => "stream did not contain valid UTF-8"
  | other message => message

/-- What stands at a path. -/
inductive Kind where
  | file
  | directory
  | other
deriving DecidableEq, Repr

/-- The operations on files. -/
structure Access (m : Type → Type) where
  /-- What stands at a path, nothing where the path leads nowhere. -/
  kind? : Path → m (Option Kind)
  read : Path → m (Except Refusal ByteArray)
  /-- Puts a file in place, over an older one. -/
  write : Path → ByteArray → m (Except Refusal Unit)
  makeDirectory : Path → m (Except Refusal Unit)
  /-- The names in a directory, each with what stands there. -/
  list : Path → m (Except Refusal (List (String × Kind)))
  remove : Path → m (Except Refusal Unit)

namespace Access

variable {m : Type → Type} [Monad m]

/-- Whether anything stands at a path. -/
def present (disk : Access m) (path : Path) : m Bool := do return (← disk.kind? path).isSome

/-- Whether a file stands at a path. -/
def isFile (disk : Access m) (path : Path) : m Bool := do return (← disk.kind? path) = some .file

/-- Whether a directory stands at a path. -/
def isDirectory (disk : Access m) (path : Path) : m Bool := do
  return (← disk.kind? path) = some .directory

/-- The text in a file. -/
def readText (disk : Access m) (path : Path) : m (Except Refusal String) := do
  match ← disk.read path with
  | .error refusal => return .error refusal
  | .ok bytes =>
      match String.fromUTF8? bytes with
      | some text => return .ok text
      | none => return .error .notText

/-- Puts a text in a file. -/
def writeText (disk : Access m) (path : Path) (text : String) : m (Except Refusal Unit) :=
  disk.write path text.toUTF8

/--
Makes the first directory of a list, each one the parent of that in front, that can be made or is
there, and gives those in front of it, the outermost first.
-/
def makeOutermost (disk : Access m) :
    (ancestors : List Path) → (missing : List Path) → m (Except Refusal (List Path))
  | [], missing => return .ok missing
  | path :: ancestors, missing => do
      if path.parent?.isNone then return .ok missing
      else
        match ← disk.makeDirectory path with
        | .ok () => return .ok missing
        | .error .notFound => makeOutermost disk ancestors (path :: missing)
        | .error .alreadyThere =>
            if ← disk.isDirectory path then return .ok missing else return .error .alreadyThere
        | .error refusal => return .error refusal

/-- Makes directories one after another; one that is there already will do. -/
def makeEach (disk : Access m) : List Path → m (Except Refusal Unit)
  | [] => return .ok ()
  | path :: paths => do
      match ← disk.makeDirectory path with
      | .ok () => makeEach disk paths
      | .error .alreadyThere =>
          if ← disk.isDirectory path then makeEach disk paths else return .error .alreadyThere
      | .error refusal => return .error refusal

/-- Makes a directory and those above it, as far as they are missing. -/
def makeDirectories (disk : Access m) (path : Path) : m (Except Refusal Unit) := do
  match ← disk.makeOutermost path.ancestors [] with
  | .error refusal => return .error refusal
  | .ok missing => disk.makeEach missing

end Access

end ModelMigration.Disk
