import ModelMigration.Compiler
import ModelMigration.Proofs.StateSteps

/-!
# How a request ends

Everything that a request can do to a state, read off once from the compiler: one constructor for
each way out, with what the stores answered on the way. What is proved of requests is proved by
cases on it.
-/

namespace ModelMigration

namespace Compiler

variable {σ : Type}

/-! ## Delivery -/

/-- How putting a cache entry to its place ends, from a state to the next. -/
inductive Delivered (stores : Stores (StateM σ)) (key : CacheKey) (path : Path) (fromCache : Bool)
    (t : Timestamp) (x : σ) : Except Error Artifact → σ → Prop
  | unread {error : Error} {y : σ} (read : taken (stores.cache.read key) x = (.error error, y)) :
      Delivered stores key path fromCache t x (.error error) y
  | unplaced {content : String} {error : Error} {y z : σ}
      (read : taken (stores.cache.read key) x = (.ok content, y))
      (put : taken (stores.output.put path content) y = (.error error, z)) :
      Delivered stores key path fromCache t x (.error error) z
  | placed {content : String} {y z : σ} (read : taken (stores.cache.read key) x = (.ok content, y))
      (put : taken (stores.output.put path content) y = (.ok (), z)) :
      Delivered stores key path fromCache t x (.ok ⟨path, content, fromCache, t⟩) z

theorem deliver_delivered {stores : Stores (StateM σ)} {key : CacheKey} {path : Path}
    {fromCache : Bool} {t : Timestamp} {x z : σ} {result : Except Error Artifact}
    (h : taken (deliver stores key path fromCache t) x = (result, z)) :
    Delivered stores key path fromCache t x result z := by
  simp only [deliver, taken_bind] at h
  match read : taken (stores.cache.read key) x with
  | (.error error, y) =>
      rw [read] at h
      cases h
      exact .unread read
  | (.ok content, y) =>
      simp only [read, taken_bind] at h
      match put : taken (stores.output.put path content) y with
      | (.error error, u) =>
          rw [put] at h
          cases h
          exact .unplaced read put
      | (.ok (), u) =>
          rw [put] at h
          cases h
          exact .placed read put

theorem placed_of_delivered {stores : Stores (StateM σ)} {key : CacheKey} {path : Path}
    {fromCache : Bool} {t : Timestamp} {x y : σ} {a : Artifact}
    (h : Delivered stores key path fromCache t x (.ok a) y) : a.path = path ∧ a.timestamp = t := by
  cases h
  exact ⟨rfl, rfl⟩

theorem exists_read_of_delivered {stores : Stores (StateM σ)} {key : CacheKey} {path : Path}
    {fromCache : Bool} {t : Timestamp} {x z : σ} {a : Artifact}
    (h : Delivered stores key path fromCache t x (.ok a) z) :
    ∃ content y, taken (stores.cache.read key) x = (.ok content, y) ∧
      taken (stores.output.put path content) y = (.ok (), z) ∧ a = ⟨path, content, fromCache, t⟩ := by
  cases h with
  | placed read put => exact ⟨_, _, read, put, rfl⟩

/-! ## A request at a time -/

/-- How a request at a time ends, with the number of extensions that were run. -/
inductive EndedAt (s : Settings) (stores : Stores (StateM σ)) (r : Request) (t : Timestamp)
    (x : σ) : Except Error Artifact × Nat → σ → Prop
  /-- The hash makes no key. -/
  | unnamed {error : Error} (hash : CacheKey.ofHash r.hash s.cacheExtension = .error error) :
      EndedAt s stores r t x (.error error, 0) x
  /-- There is an entry of the key. -/
  | hit {key : CacheKey} {result : Except Error Artifact} {y z : σ}
      (hash : CacheKey.ofHash r.hash s.cacheExtension = .ok key)
      (found : taken (stores.cache.contains key) x = (true, y))
      (delivered : Delivered stores key (destination s r.name r.config t) true t y result z) :
      EndedAt s stores r t x (result, 0) z
  /-- There is no text to keep. -/
  | unbuilt {key : CacheKey} {error : Error} {y : σ}
      (hash : CacheKey.ofHash r.hash s.cacheExtension = .ok key)
      (found : taken (stores.cache.contains key) x = (false, y)) (built : build s r = .error error) :
      EndedAt s stores r t x (.error error, buildCalls s r) y
  /-- The text cannot be kept. -/
  | unkept {key : CacheKey} {text : String} {error : Error} {y z : σ}
      (hash : CacheKey.ofHash r.hash s.cacheExtension = .ok key)
      (found : taken (stores.cache.contains key) x = (false, y)) (built : build s r = .ok text)
      (kept : taken (stores.cache.write key text) y = (.error error, z)) :
      EndedAt s stores r t x (.error error, buildCalls s r) z
  /-- The text is kept, and goes to its place from there. -/
  | miss {key : CacheKey} {text : String} {result : Except Error Artifact} {y z u : σ}
      (hash : CacheKey.ofHash r.hash s.cacheExtension = .ok key)
      (found : taken (stores.cache.contains key) x = (false, y)) (built : build s r = .ok text)
      (kept : taken (stores.cache.write key text) y = (.ok (), z))
      (delivered : Delivered stores key (destination s r.name r.config t) false t z result u) :
      EndedAt s stores r t x (result, buildCalls s r) u

theorem compileAt_endedAt {s : Settings} {stores : Stores (StateM σ)} {r : Request} {t : Timestamp}
    {x z : σ} {result : Except Error Artifact × Nat}
    (h : taken (compileAt s stores r t) x = (result, z)) : EndedAt s stores r t x result z := by
  simp only [compileAt] at h
  cases hash : CacheKey.ofHash r.hash s.cacheExtension with
  | error error =>
      rw [hash] at h
      cases h
      exact .unnamed hash
  | ok key =>
      simp only [hash, taken_bind, taken_ite] at h
      match found : taken (stores.cache.contains key) x with
      | (true, y) =>
          simp only [found, if_true, taken_pure, Prod.mk.injEq] at h
          obtain ⟨rfl, rfl⟩ := h
          exact .hit hash found (deliver_delivered rfl)
      | (false, y) =>
          simp only [found, Bool.false_eq_true, if_false, buildAndDeliver] at h
          cases built : build s r with
          | error error =>
              rw [built] at h
              cases h
              exact .unbuilt hash found built
          | ok text =>
              simp only [built, taken_bind] at h
              match kept : taken (stores.cache.write key text) y with
              | (.error error, u) =>
                  rw [kept] at h
                  cases h
                  exact .unkept hash found built kept
              | (.ok (), u) =>
                  rw [kept] at h
                  cases h
                  exact .miss hash found built kept (deliver_delivered rfl)

theorem placed_of_endedAt {s : Settings} {stores : Stores (StateM σ)} {r : Request} {t : Timestamp}
    {x y : σ} {a : Artifact} {calls : Nat} (h : EndedAt s stores r t x (.ok a, calls) y) :
    a.path = destination s r.name r.config t ∧ a.timestamp = t := by
  cases h with
  | hit hash found delivered => exact placed_of_delivered delivered
  | miss hash found built kept delivered => exact placed_of_delivered delivered

/-! ## A request -/

/-- What the result of a request at a time is as an outcome. -/
def outcome : Except Error Artifact → Outcome
  | .ok artifact => .compiled artifact
  | .error error => .rejected error

/-- How a request ends. -/
inductive Ended (s : Settings) (stores : Stores (StateM σ)) (clock : Clock) (r : Request) (x : σ) :
    Completion → σ → Prop
  | invalid {error : Error} (config : r.config.validate = .error error) :
      Ended s stores clock r x ⟨clock, .rejected error, 0⟩ x
  | exhausted (config : r.config.validate = .ok ()) (advance : clock.advance? = none) :
      Ended s stores clock r x ⟨clock, .clockExhausted, 0⟩ x
  | timed {later : Clock} {result : Except Error Artifact} {calls : Nat} {y : σ}
      (config : r.config.validate = .ok ()) (advance : clock.advance? = some later)
      (ended : EndedAt s stores r later.current x (result, calls) y) :
      Ended s stores clock r x ⟨later, outcome result, calls⟩ y

theorem compile_ended {s : Settings} {stores : Stores (StateM σ)} {clock : Clock} {r : Request}
    {x y : σ} {completion : Completion}
    (h : taken (compile s stores clock r) x = (completion, y)) :
    Ended s stores clock r x completion y := by
  simp only [compile] at h
  cases config : r.config.validate with
  | error error =>
      rw [config] at h
      cases h
      exact .invalid config
  | ok =>
      cases advance : clock.advance? with
      | none =>
          rw [config, advance] at h
          cases h
          exact .exhausted config advance
      | some later =>
          simp only [config, advance, taken_bind] at h
          match ended : taken (compileAt s stores r later.current) x with
          | ((.ok artifact, calls), u) =>
              rw [ended] at h
              cases h
              exact .timed config advance (compileAt_endedAt ended)
          | ((.error error, calls), u) =>
              rw [ended] at h
              cases h
              exact .timed config advance (compileAt_endedAt ended)

/-- A request that is compiled has a valid configuration, and ends well at the time to which the
clock moves on. -/
theorem endedAt_of_compiled {s : Settings} {stores : Stores (StateM σ)} {clock : Clock}
    {r : Request} {x y : σ} {completion : Completion} {a : Artifact}
    (compiled : completion.outcome = .compiled a)
    (h : taken (compile s stores clock r) x = (completion, y)) :
    r.config.validate = .ok () ∧ clock.advance? = some completion.clock ∧
      EndedAt s stores r completion.clock.current x (.ok a, completion.extensionCalls) y := by
  cases compile_ended h with
  | invalid => cases compiled
  | exhausted => cases compiled
  | @timed _ result _ _ config advance endedAt =>
      cases result with
      | error error => cases compiled
      | ok a =>
          cases compiled
          exact ⟨config, advance, endedAt⟩

end Compiler

end ModelMigration
