import ModelMigration.CommandLine.Arguments
import ModelMigration.Compiler
import ModelMigration.Store.Document

/-!
# Running commands

What a command does on a disk, what it prints, and how it fails. Nothing is printed by a command
that fails.
-/

namespace ModelMigration.CommandLine

open Disk

/-- Why a command fails. -/
inductive Failure where
  /-- An error, told behind what was being done. -/
  | failed (doing : Option String) (error : Error)
  /-- Options that do not go together. -/
  | singleModelOnly
  | noModelName (path : Path)
  | clockExhausted
deriving DecidableEq, Repr

/-- What is said of a failure. -/
def Failure.message : Failure → String
  | failed (some doing) error => doing ++ ": " ++ error.message
  | failed none error => error.message
  | singleModelOnly => "--name and --hash can only be used with a single --model"
  | noModelName path => "cannot derive a model name from " ++ path.text
  | clockExhausted => "the migration clock cannot move on"

/-- What all the models of a command share. -/
structure Job where
  settings : Settings
  arguments : CompileArguments
  config : Config
  stub : Stub
  extensions : List Extension

namespace Job

/-- The request for the model in a file. -/
def request (job : Job) (path : Path) (model : Model) : Except Failure Request := do
  let name ←
    match job.arguments.name? with
    | some name => pure name
    | none =>
        match modelName? path with
        | some name => pure name
        | none => .error (.noModelName path)
  let hash := job.arguments.hash?.getD (fingerprint name model job.config job.stub job.extensions)
  return ⟨job.stub, name, model, job.config, hash, job.extensions⟩

end Job

variable {m : Type → Type} [Monad m]

/-- Compiles the models in the given files one after another. -/
def compileEach (disk : Access m) (job : Job) :
    Clock → List Path → m (Except Failure (List Artifact))
  | _, [] => return .ok []
  | clock, path :: paths => do
      match ← loadModel disk path with
      | .error error => return .error (.failed (some ("loading model " ++ path.text)) error)
      | .ok model =>
          match job.request path model with
          | .error failure => return .error failure
          | .ok request =>
              let completion ←
                Compiler.compile job.settings (Disk.stores disk job.settings) clock request
              match completion.outcome with
              | .rejected error =>
                  let doing := "compiling migration for " ++ request.name
                  return .error (.failed (some doing) error)
              | .clockExhausted => return .error .clockExhausted
              | .compiled artifact =>
                  match ← compileEach disk job completion.clock paths with
                  | .error failure => return .error failure
                  | .ok artifacts => return .ok (artifact :: artifacts)

/-- The template that a command asks for. -/
def stubOf (disk : Access m) (arguments : CompileArguments) : m (Except Error Stub) :=
  match arguments.stub? with
  | some path => loadStub disk path
  | none => return .ok .migration

/-- The migrations of a command, the first of them a step after `now`. -/
def compile (disk : Access m) (settings : Settings) (now : Timestamp)
    (arguments : CompileArguments) : m (Except Failure (List Artifact)) := do
  if 1 < arguments.models.length && (arguments.name?.isSome || arguments.hash?.isSome) then
    return .error .singleModelOnly
  else
    match ← loadConfig disk arguments.config with
    | .error error =>
        return .error (.failed (some ("loading configuration " ++ arguments.config.text)) error)
    | .ok config =>
        match ← stubOf disk arguments with
        | .error error => return .error (.failed none error)
        | .ok stub =>
            let extensions := if arguments.softDeletes then [Extension.softDeletes] else []
            match (Clock.startingAt now).withStep? settings.stepSeconds with
            | none => return .error .clockExhausted
            | some clock =>
                let job : Job := ⟨settings, arguments, config, stub, extensions⟩
                compileEach disk job clock arguments.models

/-- The line that tells of a migration. -/
def artifactLine (a : Artifact) : String :=
  (if a.fromCache then "cached  " else "created ") ++ a.path.text

/-- The lines that a command prints. -/
def runCommand (disk : Access m) (settings : Settings) (now : Timestamp) :
    Command → m (Except Failure (List String))
  | .compile arguments => do
      return (← compile disk settings now arguments).map fun artifacts => artifacts.map artifactLine
  | .listCache => do
      match ← (Disk.cache disk settings.cachePath).keys with
      | .error error => return .error (.failed none error)
      | .ok [] => return .ok ["No cached migrations"]
      | .ok keys => return .ok (keys.map fun key => (entryPath settings.cachePath key).text)
  | .clearCache => do
      match ← (Disk.cache disk settings.cachePath).clear with
      | .error error => return .error (.failed none error)
      | .ok count => return .ok ["removed " ++ toString count ++ " cached migration(s)"]

/-- The lines that an invocation prints, run in the directory `here` at the time `now`. -/
def run (disk : Access m) (here : Path) (now : Timestamp) (invocation : Invocation) :
    m (Except Failure (List String)) :=
  runCommand disk { Settings.standard with basePath := invocation.basePath.absolute here } now
    invocation.command

end ModelMigration.CommandLine
