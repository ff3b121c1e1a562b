import ModelMigration.Path

/-!
# Command-line arguments

The arguments name a command, perhaps one below it, and options for each. They are taken from left
to right. An option is settled when the next one comes or the arguments of its command end, so that
of two faults the one met first in this order is told.
-/

namespace ModelMigration.CommandLine

/-- What is asked to be compiled. -/
structure CompileArguments where
  models : List Path
  config : Path
  name? : Option String
  stub? : Option Path
  hash? : Option String
  softDeletes : Bool
deriving DecidableEq, Repr

/-- What is to be done. -/
inductive Command where
  | compile (arguments : CompileArguments)
  | listCache
  | clearCache
deriving DecidableEq, Repr

/-- A command and the project it is for. -/
structure Invocation where
  basePath : Path
  command : Command
deriving DecidableEq, Repr

/-- Why arguments lead to no command. -/
inductive Refused where
  | missingArgument
  | missingCommand
  | unknownArgument
  | unknownCommand
  | badValue
  | repeated
  | valueNotTaken
  | helpAsked
  | versionAsked
  /-- Nothing is given where a command is needed, so that help is shown. -/
  | helpNeeded
deriving DecidableEq, Repr

/-- The places at which arguments are taken: the program, its commands and the commands below. -/
inductive Level where
  | program
  | compile
  | cache
  | cacheList
  | cacheClear
  | help
deriving DecidableEq, Repr

/-- The commands of a level by name. -/
def Level.commands : Level → List (String × Level)
  | program => [("compile", compile), ("cache", cache), ("help", help)]
  | cache => [("list", cacheList), ("clear", cacheClear), ("help", help)]
  | _ => []

/-- The options of all levels. -/
inductive Switch where
  | basePath
  | model
  | config
  | name
  | stub
  | hash
  | softDeletes
  | help
  | version
deriving DecidableEq, Repr

namespace Switch

/-- Whether a value follows the option. -/
def takesValue : Switch → Bool
  | softDeletes | help | version => false
  | _ => true

/-- Whether the value is a path, which may not be empty. -/
def isPath : Switch → Bool
  | basePath | model | config | stub => true
  | _ => false

/-- Whether the option may be given more than once. -/
def mayRepeat : Switch → Bool
  | model => true
  | _ => false

end Switch

/-- The long options of a level. -/
def Level.longs : Level → List (String × Switch)
  | program => [("base-path", .basePath), ("help", .help), ("version", .version)]
  | compile =>
      [("base-path", .basePath), ("model", .model), ("config", .config), ("name", .name),
        ("stub", .stub), ("hash", .hash), ("soft-deletes", .softDeletes), ("help", .help)]
  | _ => [("base-path", .basePath), ("help", .help)]

/-- The short options of a level. -/
def Level.shorts : Level → List (Char × Switch)
  | program => [('h', .help), ('V', .version)]
  | compile => [('m', .model), ('c', .config), ('h', .help)]
  | _ => [('h', .help)]

/-- The options settled at a level with their values, and the one that is not. -/
structure Progress where
  settled : List (Switch × String)
  /-- An option, and its value once that has come. -/
  pending : Option (Switch × Option String)
deriving DecidableEq, Repr

namespace Progress

/-- Nothing taken yet. -/
def start : Progress := ⟨[], none⟩

/-- Whether an option waits for its value. -/
def isWaiting (p : Progress) : Bool :=
  match p.pending with
  | some (_, none) => true
  | _ => false

/-- Whether an option is settled. -/
def isGiven (p : Progress) (s : Switch) : Bool := p.settled.any fun given => given.1 = s

/-- Settles an option with its value. -/
def accept (p : Progress) (s : Switch) (value : String) : Except Refused Progress :=
  if p.isGiven s && !s.mayRepeat then .error .repeated
  else if s.isPath && value = "" then .error .badValue
  else .ok { p with settled := p.settled ++ [(s, value)] }

/-- Settles the option that is not settled yet. -/
def resolve (p : Progress) : Except Refused Progress :=
  match p.pending with
  | none => .ok p
  | some (_, none) => .error .badValue
  | some (s, some value) => { p with pending := none }.accept s value

/-- Takes an option with its value, if it came with one. -/
def take (p : Progress) (s : Switch) (attached : Option String) : Except Refused Progress := do
  let p ← p.resolve
  match s with
  | .help => .error .helpAsked
  | .version => .error .versionAsked
  | .softDeletes => p.accept s ""
  | s =>
      match attached with
      | some value => p.accept s value
      | none => return { p with pending := some (s, none) }

/-- The values of an option, in order. -/
def values (p : Progress) (s : Switch) : List String :=
  (p.settled.filter fun given => given.1 = s).map Prod.snd

/-- The value of an option. -/
def value? (p : Progress) (s : Switch) : Option String := (p.values s).head?

/-- The path that an option gives. -/
def path? (p : Progress) (s : Switch) : Option Path := (p.value? s).map fun text => ⟨text⟩

end Progress

/-- Takes a long option, given without its dashes. -/
def takeLong (level : Level) (p : Progress) (body : List Char) : Except Refused Progress :=
  let key := String.ofList (body.takeWhile (· ≠ '='))
  let attached :=
    match body.dropWhile (· ≠ '=') with
    | [] => none
    | _ :: value => some (String.ofList value)
  match level.longs.lookup key with
  | none => .error .unknownArgument
  | some s =>
      if !s.takesValue && attached.isSome then .error .valueNotTaken else p.take s attached

/-- Takes the short options of one argument without its dash; one with a value is the last. -/
def takeShorts (level : Level) : Progress → List Char → Except Refused Progress
  | p, [] => .ok p
  | p, c :: cs =>
      match level.shorts.lookup c with
      | none => .error .unknownArgument
      | some s =>
          if s.takesValue then
            match cs with
            | [] => p.take s none
            | '=' :: value => p.take s (some (String.ofList value))
            | value => p.take s (some (String.ofList value))
          else do takeShorts level (← p.take s none) cs

/-- The end of a call for help on the commands of the given names. -/
def helpOn : Level → List String → Refused
  | _, [] => .helpAsked
  | level, name :: names =>
      match level.commands.lookup name with
      | some below => helpOn below names
      | none => .unknownCommand

/-- The refusal of an argument that is neither an option nor a value. -/
def stray (level : Level) (literal : Bool) (argument : String) : Refused :=
  if level.commands.isEmpty then .unknownArgument
  else if literal && (level.commands.lookup argument).isSome then .unknownArgument
  else .unknownCommand

/-- A command with the base path given for it or below it. -/
structure Found where
  basePath? : Option Path
  command : Command

/-- The command of the options at a level without commands of its own. -/
def commandOf (level : Level) (p : Progress) : Except Refused Command :=
  match level with
  | .cacheList => .ok .listCache
  | .cacheClear => .ok .clearCache
  | _ =>
      match p.values .model, p.path? .config with
      | model :: models, some config =>
          .ok (.compile {
            models := (model :: models).map fun text => ⟨text⟩
            config := config
            name? := p.value? .name
            stub? := p.path? .stub
            hash? := p.value? .hash
            softDeletes := p.isGiven .softDeletes })
      | _, _ => .error .missingArgument

/--
The end of a level, `below` being what a command of it led to and `ambient` a base path given from
outside.
-/
def finish (ambient : Option String) (level : Level) (p : Progress) (below : Option Found) :
    Except Refused Found := do
  let p ← p.resolve
  if ambient = some "" && !p.isGiven .basePath then .error .badValue
  else
    match below with
    | some found => return { found with basePath? := found.basePath?.or (p.path? .basePath) }
    | none =>
        if level.commands.isEmpty then
          return ⟨p.path? .basePath, ← commandOf level p⟩
        else if p.settled.isEmpty && ambient.isNone then .error .helpNeeded
        else .error .missingCommand

/-- Takes the arguments of a level; behind `--`, all are taken literally. -/
def takeAll (ambient : Option String) :
    Level → Progress → (literal : Bool) → List String → Except Refused Found
  | level, p, _, [] => finish ambient level p none
  | level, _, true, argument :: _ => .error (stray level true argument)
  | level, p, false, argument :: rest =>
      match if p.isWaiting then none else level.commands.lookup argument with
      | some .help => .error (helpOn level rest)
      | some below => do
          let found ← takeAll ambient below .start false rest
          finish ambient level p (some found)
      | none =>
          if argument = "--" then takeAll ambient level p true rest
          else
            match argument.toList with
            | '-' :: '-' :: body => do
                takeAll ambient level (← takeLong level p body) false rest
            | '-' :: c :: body => do
                takeAll ambient level (← takeShorts level p (c :: body)) false rest
            | _ =>
                match p.pending with
                | some (s, none) =>
                    takeAll ambient level { p with pending := some (s, some argument) } false rest
                | _ => .error (stray level false argument)

/--
The command that arguments stand for. The base path given for the innermost command counts, then
one given from outside, and else it is the working directory.
-/
def parse (ambient : Option String) (arguments : List String) : Except Refused Invocation := do
  let found ← takeAll ambient .program .start false arguments
  return ⟨(found.basePath?.or (ambient.map fun text => ⟨text⟩)).getD ⟨"."⟩, found.command⟩

end ModelMigration.CommandLine
