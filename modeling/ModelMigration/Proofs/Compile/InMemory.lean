import ModelMigration.Proofs.Compile.Endings

/-!
# Requests in memory

The stores in memory refuse nothing, so a request fails there for its own sake only, and a failing
request leaves the memory as it is.
-/

namespace ModelMigration.Memory

open Compiler

/-! ## The stores in memory -/

@[simp] theorem taken_contains (key : CacheKey) (m : Memory) :
    taken (stores.cache.contains key) m = (m.cache[key.text]?.isSome, m) :=
  Prod.ext Std.ExtTreeMap.contains_eq_isSome_getElem? rfl

@[simp] theorem taken_read (key : CacheKey) (m : Memory) :
    taken (stores.cache.read key) m = (CacheMap.read m.cache key, m) := rfl

@[simp] theorem taken_write (key : CacheKey) (text : String) (m : Memory) :
    taken (stores.cache.write key text) m = (.ok (), { m with cache := m.cache.insert key.text text }) :=
  rfl

@[simp] theorem taken_keys (m : Memory) : taken stores.cache.keys m = (.ok (CacheMap.keys m.cache), m) :=
  rfl

@[simp] theorem taken_clear (m : Memory) :
    taken stores.cache.clear m = (.ok m.cache.size, { m with cache := ∅ }) := rfl

@[simp] theorem taken_put (path : Path) (text : String) (m : Memory) :
    taken (stores.output.put path text) m = (.ok (), { m with output := m.output.put path text }) := rfl

/-! ## Requests -/

/-- How a request ends in memory. -/
inductive Ended (s : Settings) (clock : Clock) (r : Request) (m : Memory) :
    Completion → Memory → Prop
  | invalid {error : Error} (config : r.config.validate = .error error) :
      Ended s clock r m ⟨clock, .rejected error, 0⟩ m
  | exhausted (config : r.config.validate = .ok ()) (advance : clock.advance? = none) :
      Ended s clock r m ⟨clock, .clockExhausted, 0⟩ m
  | unnamed {later : Clock} {error : Error} (config : r.config.validate = .ok ())
      (advance : clock.advance? = some later)
      (hash : CacheKey.ofHash r.hash s.cacheExtension = .error error) :
      Ended s clock r m ⟨later, .rejected error, 0⟩ m
  /-- The text under the key goes to the output. -/
  | hit {later : Clock} {key : CacheKey} {text : String} (config : r.config.validate = .ok ())
      (advance : clock.advance? = some later)
      (hash : CacheKey.ofHash r.hash s.cacheExtension = .ok key)
      (kept : m.cache[key.text]? = some text) :
      Ended s clock r m
        ⟨later, .compiled ⟨destination s r.name r.config later.current, text, true,
          later.current⟩, 0⟩
        ⟨m.cache, m.output.put (destination s r.name r.config later.current) text⟩
  | unbuilt {later : Clock} {key : CacheKey} {error : Error} (config : r.config.validate = .ok ())
      (advance : clock.advance? = some later)
      (hash : CacheKey.ofHash r.hash s.cacheExtension = .ok key)
      (new : m.cache[key.text]? = none) (built : build s r = .error error) :
      Ended s clock r m ⟨later, .rejected error, buildCalls s r⟩ m
  /-- The text is built, kept, and goes to the output. -/
  | miss {later : Clock} {key : CacheKey} {text : String} (config : r.config.validate = .ok ())
      (advance : clock.advance? = some later)
      (hash : CacheKey.ofHash r.hash s.cacheExtension = .ok key)
      (new : m.cache[key.text]? = none) (built : build s r = .ok text) :
      Ended s clock r m
        ⟨later, .compiled ⟨destination s r.name r.config later.current, text, false,
          later.current⟩, buildCalls s r⟩
        ⟨m.cache.insert key.text text,
          m.output.put (destination s r.name r.config later.current) text⟩

/-- Reading a key in use and putting its text to a place cannot fail. -/
theorem delivered_eq {key : CacheKey} {path : Path} {fromCache : Bool} {t : Timestamp}
    {m m' : Memory} {text : String} {result : Except Error Artifact}
    (kept : m.cache[key.text]? = some text)
    (delivered : Delivered stores key path fromCache t m result m') :
    result = .ok ⟨path, text, fromCache, t⟩ ∧ m' = ⟨m.cache, m.output.put path text⟩ := by
  have found : CacheMap.read m.cache key = .ok text := by simp [CacheMap.read, kept]
  cases delivered with
  | unread read => simp [found] at read
  | unplaced read put => simp at put
  | placed read put =>
      simp only [taken_read, found, Prod.mk.injEq, Except.ok.injEq] at read
      obtain ⟨rfl, rfl⟩ := read
      simp only [taken_put, Prod.mk.injEq, true_and] at put
      exact ⟨rfl, put.symm⟩

theorem compile_ended {s : Settings} {clock : Clock} {r : Request} {m m' : Memory}
    {completion : Completion} (h : taken (compile s stores clock r) m = (completion, m')) :
    Ended s clock r m completion m' := by
  cases Compiler.compile_ended h with
  | invalid config => exact .invalid config
  | exhausted config advance => exact .exhausted config advance
  | timed config advance ended =>
      cases ended with
      | unnamed hash => exact .unnamed config advance hash
      | hit hash found delivered =>
          simp only [taken_contains, Prod.mk.injEq] at found
          obtain ⟨present, rfl⟩ := found
          obtain ⟨text, kept⟩ := Option.isSome_iff_exists.mp present
          obtain ⟨rfl, rfl⟩ := delivered_eq kept delivered
          exact .hit config advance hash kept
      | unbuilt hash found built =>
          simp only [taken_contains, Prod.mk.injEq] at found
          obtain ⟨absent, rfl⟩ := found
          have new := Option.isNone_iff_eq_none.mp (Option.isSome_eq_false_iff.mp absent)
          exact .unbuilt config advance hash new built
      | unkept hash found built kept => simp at kept
      | miss hash found built kept delivered =>
          simp only [taken_contains, Prod.mk.injEq] at found
          obtain ⟨absent, rfl⟩ := found
          simp only [taken_write, Prod.mk.injEq, true_and] at kept
          subst kept
          obtain ⟨rfl, rfl⟩ := delivered_eq Std.ExtTreeMap.getElem?_insert_self delivered
          have new := Option.isNone_iff_eq_none.mp (Option.isSome_eq_false_iff.mp absent)
          exact .miss config advance hash new built

end ModelMigration.Memory
