import ModelMigration.Fingerprint
import ModelMigration.Stores

/-!
# The compiler

One request at a time: the clock moves on, the text of the migration comes from the cache or is
built and kept there, and goes to its place in the output.
-/

namespace ModelMigration

/-- A migration that is asked for. -/
structure Request where
  stub : Stub
  /-- The name of the model. -/
  name : String
  model : Model
  config : Config
  /-- What the cache entry is found by. -/
  hash : String
  extensions : List Extension

/-- A migration in its place. -/
structure Artifact where
  path : Path
  content : String
  fromCache : Bool
  timestamp : Timestamp
deriving DecidableEq, Repr

/-- The name of the file without its directories. -/
def Artifact.fileName (a : Artifact) : String := a.path.fileName?.getD ""

/-- How a request ends. -/
inductive Outcome where
  | compiled (artifact : Artifact)
  | rejected (error : Error)
  /-- The clock cannot move on. -/
  | clockExhausted
deriving DecidableEq, Repr

/-- The end of a request, with the clock behind it and the number of extensions that were run. -/
structure Completion where
  clock : Clock
  outcome : Outcome
  extensionCalls : Nat
deriving DecidableEq, Repr

namespace Compiler

/-- The place of a migration. -/
def destination (s : Settings) (name : String) (config : Config) (t : Timestamp) : Path :=
  (s.resolve config.migrations).join ⟨migrationFileName t name s.sourceExtension⟩

/-- The text of a migration before extensions. -/
def render (s : Settings) (r : Request) : Except Error String :=
  renderMigration r.stub r.name r.model r.config (.atLevel s.indentLevel)

/-- The text of a migration, built without a cache. -/
def build (s : Settings) (r : Request) : Except Error String := do
  Extension.runAll r.model r.config r.extensions (← render s r)

/-- The number of extensions that run when the text of a migration is built. -/
def buildCalls (s : Settings) (r : Request) : Nat :=
  match render s r with
  | .ok text => (Extension.inputs r.model r.config r.extensions text).length
  | .error _ => 0

variable {m : Type → Type} [Monad m]

/-- Puts a cache entry to its place. -/
def deliver (stores : Stores m) (key : CacheKey) (path : Path) (fromCache : Bool) (t : Timestamp) :
    m (Except Error Artifact) := do
  match ← stores.cache.read key with
  | .error error => return .error error
  | .ok content =>
      match ← stores.output.put path content with
      | .error error => return .error error
      | .ok () => return .ok ⟨path, content, fromCache, t⟩

/-- Builds a migration, keeps it and puts it to its place. -/
def buildAndDeliver (s : Settings) (stores : Stores m) (r : Request) (key : CacheKey) (path : Path)
    (t : Timestamp) : m (Except Error Artifact) := do
  match build s r with
  | .error error => return .error error
  | .ok text =>
      match ← stores.cache.write key text with
      | .error error => return .error error
      | .ok () => deliver stores key path false t

/-- The migration of a request at a time, with the number of extensions that were run. -/
def compileAt (s : Settings) (stores : Stores m) (r : Request) (t : Timestamp) :
    m (Except Error Artifact × Nat) := do
  let path := destination s r.name r.config t
  match CacheKey.ofHash r.hash s.cacheExtension with
  | .error error => return (.error error, 0)
  | .ok key =>
      if ← stores.cache.contains key then return (← deliver stores key path true t, 0)
      else return (← buildAndDeliver s stores r key path t, buildCalls s r)

/-- Compiles a request. -/
def compile (s : Settings) (stores : Stores m) (clock : Clock) (r : Request) : m Completion := do
  match r.config.validate with
  | .error error => return ⟨clock, .rejected error, 0⟩
  | .ok () =>
      match clock.advance? with
      | none => return ⟨clock, .clockExhausted, 0⟩
      | some clock =>
          match ← compileAt s stores r clock.current with
          | (.ok artifact, calls) => return ⟨clock, .compiled artifact, calls⟩
          | (.error error, calls) => return ⟨clock, .rejected error, calls⟩

end Compiler

end ModelMigration
