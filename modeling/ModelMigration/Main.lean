import ModelMigration.CommandLine.Run
import Std.Time

/-!
# The program

Takes the arguments of the command line, runs the command on the disk at the local time, and prints
its lines, or what was wrong on the error output.
-/

namespace ModelMigration.Program

open Disk

/-- The number that the system gives an error, where it gives one. -/
def systemNumber? : IO.Error → Option Nat
  | .alreadyExists _ n _ | .noFileOrDirectory _ n _ | .inappropriateType _ n _
  | .invalidArgument _ n _ | .permissionDenied _ n _ | .resourceExhausted _ n _
  | .noSuchThing _ n _ | .interrupted _ n _ => some n.toNat
  | .otherError n _ | .resourceBusy n _ | .resourceVanished n _ | .unsupportedOperation n _
  | .hardwareFault n _ | .unsatisfiedConstraints n _ | .illegalOperation n _ | .protocolError n _
  | .timeExpired n _ => some n.toNat
  | .unexpectedEof | .userError _ => none

/-- What an error of the system refuses an operation for. -/
def refusalOf (error : IO.Error) : Refusal :=
  match systemNumber? error with
  | some 2 => .notFound
  | some 17 => .alreadyThere
  | some 20 => .notDirectory
  | some 21 => .isDirectory
  | some 36 => .nameTooLong
  | _ => .other (toString error)

/-- Runs an operation on a path, which may not hold a NUL. -/
def attempt {α : Type} (path : Path) (action : IO α) : IO (Except Refusal α) := do
  if path.text.toList.contains '\x00' then return .error .nulInName
  else
    try return .ok (← action)
    catch error => return .error (refusalOf error)

/-- What the system's sort of a file is here. -/
def kindOf : IO.FS.FileType → Kind
  | .file => .file
  | .dir => .directory
  | _ => .other

/-- A directory entry that stands for a path by itself. -/
def place (path : Path) : IO.FS.DirEntry where
  root := path.text
  fileName := ""

/-- The bytes of a file; a directory has none. -/
def readBytes (path : Path) : IO (Except Refusal ByteArray) := do
  match ← attempt path (place path).root.metadata with
  | .error refusal => return .error refusal
  | .ok data =>
      if data.type == .dir then return .error .isDirectory
      else attempt path (IO.FS.readBinFile path.text)

/-- The names in a directory; links are not followed. -/
def listNames (path : Path) : IO (List (String × Kind)) := do
  let entries ← (place path).root.readDir
  entries.toList.mapM fun entry => do
    return (entry.fileName, kindOf (← entry.path.symlinkMetadata).type)

/-- The disk of the system. -/
def disk : Access IO where
  kind? path := do
    match ← attempt path (place path).root.metadata with
    | .ok data => return some (kindOf data.type)
    | .error _ => return none
  read := readBytes
  write path content := attempt path (IO.FS.writeBinFile path.text content)
  makeDirectory path := attempt path (IO.FS.createDir path.text)
  list path := attempt path (listNames path)
  remove path := attempt path (IO.FS.removeFile path.text)

/-- The local time. -/
def now : IO Timestamp := do
  let t ← Std.Time.PlainDateTime.now
  let date : Date := ⟨t.year, t.month.val.toNat, t.day.val.toNat⟩
  return .ofParts date t.hour.val.toNat t.minute.val.toNat t.second.val.toNat

/-- How the program is called. -/
def usage : String :=
  "Usage: scaffolder [--base-path <BASE_PATH>] <COMMAND>\n\n" ++
  "Commands:\n" ++
  "  compile  --model <MODEL>... --config <CONFIG> [--name <NAME>] [--stub <STUB>]\n" ++
  "           [--hash <HASH>] [--soft-deletes]\n" ++
  "  cache    list | clear\n"

/-- What was wrong with the arguments. -/
def complaint : CommandLine.Refused → String
  | .missingArgument => "required arguments were not provided"
  | .missingCommand | .helpNeeded => "a command is required"
  | .unknownArgument => "unexpected argument found"
  | .unknownCommand => "unrecognized command"
  | .badValue => "a value is missing or not valid"
  | .repeated => "an argument cannot be used multiple times"
  | .valueNotTaken => "unexpected value for an argument"
  | .helpAsked | .versionAsked => ""

/-- Prints what there is instead of a command to run, and gives the exit code. -/
def explain (refused : CommandLine.Refused) : IO UInt32 := do
  match refused with
  | .helpAsked => IO.print usage; return 0
  | .versionAsked => IO.println "scaffolder 0.1.0"; return 0
  | .helpNeeded => IO.eprint usage; return 2
  | refused => IO.eprintln ("error: " ++ complaint refused ++ "\n\n" ++ usage); return 2

end ModelMigration.Program

open ModelMigration in
/-- Runs the command that the arguments name. -/
def main (arguments : List String) : IO UInt32 := do
  match CommandLine.parse (← IO.getEnv "SCAFFOLDER_BASE_PATH") arguments with
  | .error refused => Program.explain refused
  | .ok invocation =>
      let here ← IO.currentDir
      match ← CommandLine.run Program.disk ⟨here.toString⟩ (← Program.now) invocation with
      | .ok lines =>
          for line in lines do IO.println line
          return 0
      | .error failure =>
          IO.eprintln ("Error: " ++ failure.message)
          return 1
