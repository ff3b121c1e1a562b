import ModelMigration.Compiler

/-!
# Sessions

A session is a list of steps on one compiler: requests, and looks into the cache or changes of it
between them. A session ends early when the clock cannot move on.
-/

namespace ModelMigration.Session

/-- What is done in a session. -/
inductive Step where
  | compile (request : Request)
  | contains (key : CacheKey)
  | read (key : CacheKey)
  | write (key : CacheKey) (text : String)
  | keys
  | clear

/-- What a step leads to. -/
inductive Answer where
  /-- The end of a request, with the number of extensions that were run. -/
  | ended (outcome : Outcome) (extensionCalls : Nat)
  | found (present : Bool)
  | text (result : Except Error String)
  | written (result : Except Error Unit)
  | keys (result : Except Error (List CacheKey))
  | cleared (result : Except Error Nat)

/-- Whether no step follows an answer. -/
def Answer.isLast : Answer → Bool
  | ended .clockExhausted _ => true
  | _ => false

variable {m : Type → Type} [Monad m]

/-- The answer to a step, with the clock behind it. -/
def step (s : Settings) (stores : Stores m) (clock : Clock) : Step → m (Answer × Clock)
  | .compile request => do
      let completion ← Compiler.compile s stores clock request
      return (.ended completion.outcome completion.extensionCalls, completion.clock)
  | .contains key => do return (.found (← stores.cache.contains key), clock)
  | .read key => do return (.text (← stores.cache.read key), clock)
  | .write key text => do return (.written (← stores.cache.write key text), clock)
  | .keys => do return (.keys (← stores.cache.keys), clock)
  | .clear => do return (.cleared (← stores.cache.clear), clock)

/-- The answers to the steps of a session, up to the one that ends it. -/
def run (s : Settings) (stores : Stores m) : Clock → List Step → m (List Answer)
  | _, [] => return []
  | clock, first :: steps => do
      let (answer, clock) ← step s stores clock first
      if answer.isLast then return [answer]
      else return answer :: (← run s stores clock steps)

end ModelMigration.Session
