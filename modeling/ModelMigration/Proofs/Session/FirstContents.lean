import ModelMigration.Proofs.Cache.Keys
import ModelMigration.Proofs.Cache.Listing
import ModelMigration.Proofs.Compile.InMemory
import ModelMigration.Proofs.Compile.Uncached
import ModelMigration.Proofs.Session.Runs

/-!
# The first text under a hash stays

For the requests of a session the cache in memory is a map from hashes to the first text that was
compiled under each since the last clearing. The map is read off the history of the session: its
steps with their answers.
-/

namespace ModelMigration.Session

open Compiler

/-! ## What a history keeps -/

/-- Whether a step clears the cache. -/
def Step.isClear : Step → Bool
  | .clear => true
  | _ => false

/-- The part of a history behind its last clearing. -/
def sinceClear (history : List (Step × Answer)) : List (Step × Answer) :=
  (history.reverse.takeWhile fun entry => !entry.1.isClear).reverse

/-- The text of a request that succeeded under a hash. -/
def textUnder? (hash : String) : Step × Answer → Option String
  | (.compile r, .ended (.compiled artifact) _) =>
      if r.hash = hash then some artifact.content else none
  | _ => none

/-- The text of the first request that succeeded under a hash since the last clearing. -/
def firstText? (history : List (Step × Answer)) (hash : String) : Option String :=
  (sinceClear history).findSome? (textUnder? hash)

@[simp] theorem firstText?_nil (hash : String) : firstText? [] hash = none := rfl

theorem firstText?_concat (history : List (Step × Answer)) (entry : Step × Answer)
    (hash : String) :
    firstText? (history ++ [entry]) hash =
      if entry.1.isClear then none else (firstText? history hash).or (textUnder? hash entry) := by
  cases clear : entry.1.isClear with
  | true => simp [firstText?, sinceClear, clear]
  | false =>
      simp only [firstText?, sinceClear, List.reverse_append, List.reverse_cons, List.reverse_nil,
        List.nil_append, List.cons_append, List.takeWhile_cons, clear, Bool.not_false, if_true,
        List.findSome?_append, Bool.false_eq_true, if_false, List.findSome?_cons,
        List.findSome?_nil]
      cases textUnder? hash entry <;> rfl

/-- Whether the entries of a cache are the first texts of a history, each under the key of its
hash. -/
def Tracks (s : Settings) (history : List (Step × Answer)) (cache : CacheMap) : Prop :=
  ∀ (key : CacheKey) (text : String), cache[key.text]? = some text ↔
    ∃ hash, CacheKey.ofHash hash s.cacheExtension = .ok key ∧ firstText? history hash = some text

theorem Tracks.nil (s : Settings) : Tracks s [] ∅ := by
  intro key text
  simp

theorem Tracks.getElem? {s : Settings} {history : List (Step × Answer)} {cache : CacheMap}
    (tracks : Tracks s history cache) {hash : String} {key : CacheKey}
    (h : CacheKey.ofHash hash s.cacheExtension = .ok key) :
    cache[key.text]? = firstText? history hash := by
  apply Option.ext
  intro text
  rw [tracks key text]
  constructor
  · rintro ⟨other, h', first⟩
    rwa [CacheKey.ofHash_inj h h']
  · intro first
    exact ⟨hash, h, first⟩

/-- An entry of the history that keeps nothing new leaves the texts as they are. -/
theorem Tracks.concat {s : Settings} {history : List (Step × Answer)} {cache : CacheMap}
    (tracks : Tracks s history cache) {entry : Step × Answer} (goesOn : entry.1.isClear = false)
    (old : ∀ hash text, textUnder? hash entry = some text → (firstText? history hash).isSome) :
    Tracks s (history ++ [entry]) cache := by
  have same : ∀ hash, firstText? (history ++ [entry]) hash = firstText? history hash := by
    intro hash
    rw [firstText?_concat, goesOn]
    cases first : firstText? history hash with
    | some text => rfl
    | none =>
        cases under : textUnder? hash entry with
        | none => rfl
        | some text => simpa [first] using old hash text under
  intro key text
  simp only [same, tracks key text]

/-- The text of a request whose hash is new is kept. -/
theorem Tracks.insert {s : Settings} {history : List (Step × Answer)} {cache : CacheMap}
    (tracks : Tracks s history cache) {r : Request} {artifact : Artifact} {calls : Nat}
    {key : CacheKey} (h : CacheKey.ofHash r.hash s.cacheExtension = .ok key)
    (new : cache[key.text]? = none) :
    Tracks s (history ++ [(.compile r, .ended (.compiled artifact) calls)])
      (cache.insert key.text artifact.content) := by
  rw [tracks.getElem? h] at new
  intro other text
  simp only [firstText?_concat, Step.isClear, textUnder?, Bool.false_eq_true, if_false,
    CacheMap.getElem?_insert]
  split
  · next same =>
      subst same
      constructor
      · intro kept
        exact ⟨r.hash, h, by simpa [new] using kept⟩
      · rintro ⟨hash, h', first⟩
        obtain rfl := CacheKey.ofHash_inj h h'
        simpa [new] using first
  · next differ =>
      rw [tracks other text]
      constructor
      · rintro ⟨hash, h', first⟩
        exact ⟨hash, h', by simp [first]⟩
      · rintro ⟨hash, h', first⟩
        -- Another key comes from another hash, and so the new entry is not the first under it.
        have otherHash : r.hash ≠ hash := by
          rintro rfl
          rw [h] at h'
          exact differ (Except.ok.inj h')
        exact ⟨hash, h', by simpa [otherHash] using first⟩

theorem Tracks.clear (s : Settings) (history : List (Step × Answer)) (answer : Answer) :
    Tracks s (history ++ [(.clear, answer)]) ∅ := by
  intro key text
  simp [firstText?_concat, Step.isClear]

/-! ## Steps -/

/-- The answer to a valid request at a time, given the text that is kept under its hash. -/
def answerUnder (s : Settings) (r : Request) (t : Timestamp) : Option String → Answer
  | some text => .ended (.compiled ⟨destination s r.name r.config t, text, true, t⟩) 0
  | none => .ended (uncachedOutcome s r t) (buildCalls s r)

/-- On a cache that tracks a history, a request is answered by the first text under its hash. -/
theorem step_answerUnder {s : Settings} {history : List (Step × Answer)} {clock later : Clock}
    {r : Request} {m : Memory} (tracks : Tracks s history m.cache)
    (behind : Step.clockBehind? clock (.compile r) = some later)
    (config : r.config.validate = .ok ()) (named : r.hash ≠ "") :
    (taken (step s Memory.stores clock (.compile r)) m).1.1 =
      answerUnder s r later.current (firstText? history r.hash) := by
  have advance : clock.advance? = some later := by simpa [Step.clockBehind?, config] using behind
  simp only [step, taken_bind, taken_pure]
  rcases ended : taken (compile s Memory.stores clock r) m with ⟨completion, m'⟩
  dsimp only
  cases Memory.compile_ended ended with
  | invalid invalid => simp [config] at invalid
  | exhausted _ late => simp [advance] at late
  | unnamed _ _ hash => simp [CacheKey.ofHash_of_ne_empty _ named] at hash
  | hit _ advance' hash kept =>
      obtain rfl := Option.some.inj (advance.symm.trans advance')
      rw [tracks.getElem? hash] at kept
      rw [kept, answerUnder]
  | unbuilt _ advance' hash new built =>
      rw [tracks.getElem? hash] at new
      simp [new, answerUnder, uncachedOutcome, uncached_of_valid config, built]
  | miss _ advance' hash new built =>
      obtain rfl := Option.some.inj (advance.symm.trans advance')
      rw [tracks.getElem? hash] at new
      simp [new, answerUnder, uncachedOutcome, uncached_of_valid config, built]

theorem step_keeps {s : Settings} {clock : Clock} {r : Request} {m : Memory} {key : CacheKey}
    {text : String} (kept : m.cache[key.text]? = some text) :
    (taken (step s Memory.stores clock (.compile r)) m).2.cache[key.text]? = some text := by
  simp only [step, taken_bind, taken_pure]
  rcases ended : taken (compile s Memory.stores clock r) m with ⟨completion, m'⟩
  cases Memory.compile_ended ended with
  | miss config advance hash new built =>
      next other content =>
        dsimp only
        rw [CacheMap.getElem?_insert, if_neg]
        · exact kept
        · rintro rfl
          simp [kept] at new
  | _ => exact kept

/-- Behind a step the cache tracks the history with that step. -/
theorem step_tracks {s : Settings} {history : List (Step × Answer)} (clock : Clock) {first : Step}
    (unwritten : ∀ key text, first ≠ .write key text) {m : Memory}
    (tracks : Tracks s history m.cache) :
    Tracks s (history ++ [(first, (taken (step s Memory.stores clock first) m).1.1)])
      (taken (step s Memory.stores clock first) m).2.cache := by
  cases first with
  | compile r =>
      simp only [step, taken_bind, taken_pure]
      rcases ended : taken (compile s Memory.stores clock r) m with ⟨completion, m'⟩
      dsimp only
      cases Memory.compile_ended ended with
      | hit config advance hash kept =>
          -- A hit adds no first text: there is one under its hash already.
          refine tracks.concat rfl fun other text under => ?_
          by_cases same : r.hash = other
          · rw [← same, ← tracks.getElem? hash, kept]
            rfl
          · simp [textUnder?, same] at under
      | miss config advance hash new built => exact tracks.insert hash new
      | _ => exact tracks.concat rfl (by simp [textUnder?])
  | write key text => exact absurd rfl (unwritten key text)
  | clear => exact Tracks.clear s history _
  | _ => exact tracks.concat rfl (by simp [textUnder?])

/-! ## Runs -/

theorem run_tracks {s : Settings} (clock : Clock) {steps : List Step}
    (unwritten : ∀ key text, .write key text ∉ steps) {history : List (Step × Answer)} {m : Memory}
    (tracks : Tracks s history m.cache) :
    Tracks s (history ++ steps.zip (taken (run s Memory.stores clock steps) m).1)
      (taken (run s Memory.stores clock steps) m).2.cache := by
  induction steps generalizing clock history m with
  | nil => simpa using tracks
  | cons first rest ih =>
      have firstUnwritten : ∀ key text, first ≠ .write key text := by
        rintro key text rfl
        exact unwritten key text List.mem_cons_self
      have stepped := step_tracks clock firstUnwritten tracks
      cases behind : first.clockBehind? clock with
      | none =>
          rw [taken_run_cons_none _ _ rest m behind]
          simpa using stepped
      | some later =>
          have restUnwritten : ∀ key text, .write key text ∉ rest := fun key text mem =>
            unwritten key text (List.mem_cons_of_mem _ mem)
          rw [taken_run_cons _ _ rest m behind]
          simpa using ih later restUnwritten stepped

/--
In every session of requests on an empty cache, at every point: the keys in use are the sorted keys
of the hashes that succeeded since the last clearing, without repetition; a request changes no entry
that is there; and a valid request under a hash is served the first text under it with no extension
run, if there is one, and is answered as without a cache otherwise.
-/
theorem session_serves_first_texts (s : Settings) (clock : Clock) (output : OutputMap)
    {steps : List Step} (unwritten : ∀ key text, .write key text ∉ steps) {final : Clock}
    (inRange : clockAfter? clock steps = some final) {before after : List Step}
    (split : steps = before ++ after) :
    let start : Memory := ⟨∅, output⟩
    let reached := taken (run s Memory.stores clock before) start
    let history := before.zip reached.1
    (∃ keys, (taken Memory.stores.cache.keys reached.2).1 = .ok keys ∧
      (keys.Pairwise fun a b => a.text < b.text) ∧
      ∀ key, key ∈ keys ↔ ∃ hash, CacheKey.ofHash hash s.cacheExtension = .ok key ∧
        (firstText? history hash).isSome) ∧
    ∀ r rest, after = .compile r :: rest →
      (∀ (key : CacheKey) (text : String), reached.2.cache[key.text]? = some text →
        (taken (run s Memory.stores clock (before ++ [.compile r])) start).2.cache[key.text]? =
          some text) ∧
      (r.config.validate = .ok () → r.hash ≠ "" →
        ∃ later, clockAfter? clock (before ++ [.compile r]) = some later ∧
          (taken (run s Memory.stores clock steps) start).1[before.length]? =
            some (answerUnder s r later.current (firstText? history r.hash))) := by
  intro start reached history
  subst split
  have tracks : Tracks s history reached.2.cache := by
    -- The invariant of the run holds at the empty start and so behind the steps in front.
    have unwrittenBefore : ∀ key text, .write key text ∉ before := fun key text mem =>
      unwritten key text (List.mem_append_left _ mem)
    simpa using run_tracks clock unwrittenBefore (Tracks.nil s) (m := start)
  refine ⟨⟨_, rfl, CacheMap.keys_pairwise _, fun key => ?_⟩, ?_⟩
  · rw [CacheMap.mem_keys_iff]
    constructor
    · rintro ⟨text, kept⟩
      obtain ⟨hash, h, first⟩ := (tracks key text).mp kept
      exact ⟨hash, h, by simp [first]⟩
    · rintro ⟨hash, h, some⟩
      obtain ⟨text, first⟩ := Option.isSome_iff_exists.mp some
      exact ⟨text, (tracks key text).mpr ⟨hash, h, first⟩⟩
  · rintro r rest rfl
    rw [clockAfter?_append, Option.bind_eq_some_iff] at inRange
    obtain ⟨middle, inFront, behind⟩ := inRange
    simp only [clockAfter?_cons, Option.bind_eq_some_iff] at behind
    obtain ⟨later, here, _⟩ := behind
    constructor
    · intro key text kept
      rw [taken_run_append s _ _ start inFront, taken_run_cons s _ _ _ here]
      exact step_keeps kept
    · intro config named
      refine ⟨later, by simp [clockAfter?_append, inFront, here], ?_⟩
      rw [run_getElem? s _ start inFront]
      exact congrArg some (step_answerUnder tracks here config named)

/-- A request for one model with a template and a hash of choice. -/
def templateRequest (template hash : String) (extensions : List Extension) : Request where
  stub := ⟨"stub", template⟩
  name := "Person"
  model := ⟨[]⟩
  config := ⟨none, "migrations"⟩
  hash := hash
  extensions := extensions

/-- The third request would be refused by its extension, but is served the text of the first. -/
theorem session_serves_first_texts_over_refusal :
    let refusing : List Extension := [.refusing "no" (.validation "no")]
    let before : List Step := [.compile (templateRequest "one" "k" []),
      .compile (templateRequest "two" "k/" refusing)]
    let last := templateRequest "three" "k" refusing
    let steps := before ++ [.compile last]
    (∀ key text, .write key text ∉ steps) ∧
      clockAfter? (.startingAt ⟨0⟩) steps = some ⟨⟨15⟩, 5⟩ ∧
      last.config.validate = .ok () ∧ last.hash ≠ "" ∧
      (taken (run .standard Memory.stores (.startingAt ⟨0⟩) steps) ⟨∅, ∅⟩).1[2]? =
        some (.ended (.compiled ⟨Compiler.destination .standard "Person" ⟨none, "migrations"⟩ ⟨15⟩,
          "one", true, ⟨15⟩⟩) 0) := by
  intro refusing before last steps
  have unwritten : ∀ key text, .write key text ∉ steps := by
    simp [steps, before]
  have inRange : clockAfter? (.startingAt ⟨0⟩) steps = some ⟨⟨15⟩, 5⟩ := by decide
  have written : Text.isBlankText "migrations" = false := by decide
  have config : last.config.validate = .ok () := by
    simp [last, templateRequest, Config.validate, Config.table?, written]
  have named : last.hash ≠ "" := by decide
  obtain ⟨_, requests⟩ :=
    session_serves_first_texts .standard (.startingAt ⟨0⟩) ∅ unwritten inRange rfl
  obtain ⟨_, answered⟩ := requests last [] rfl
  obtain ⟨later, reached, answer⟩ := answered config named
  obtain rfl : later = ⟨⟨15⟩, 5⟩ := by simpa [inRange, steps] using reached.symm
  have first : firstText? (before.zip (taken (run .standard Memory.stores (.startingAt ⟨0⟩)
      before) ⟨∅, ∅⟩).1) last.hash = some "one" := by decide +kernel
  rw [first] at answer
  exact ⟨unwritten, inRange, config, named, answer⟩

end ModelMigration.Session
