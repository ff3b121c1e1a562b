import ModelMigration.Compiler

/-!
# Requests without a cache

What a request gives when its text is built and nothing is looked up: the reference that a compiler
with a cache is compared with.
-/

namespace ModelMigration.Compiler

/-- What a request gives without a cache: its configuration is checked and its text is built. -/
def uncached (s : Settings) (r : Request) : Except Error String := do
  r.config.validate
  build s r

theorem uncached_of_valid {s : Settings} {r : Request} (config : r.config.validate = .ok ()) :
    uncached s r = build s r := by
  rw [uncached, config]
  rfl

/-- The outcome of a request at a time without a cache. -/
def uncachedOutcome (s : Settings) (r : Request) (t : Timestamp) : Outcome :=
  match uncached s r with
  | .ok text => .compiled ⟨destination s r.name r.config t, text, false, t⟩
  | .error error => .rejected error

end ModelMigration.Compiler
