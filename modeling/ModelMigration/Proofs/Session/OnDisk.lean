import ModelMigration.Proofs.Compile.OnDisk
import ModelMigration.Proofs.Session.Runs

/-!
# Sessions on a disk

A session on an empty disk goes as in an empty memory: every step is answered alike, and behind
each the files on the disk are the entries and the migrations in memory.
-/

namespace ModelMigration.Session

open Disk FileTree

/-- Whether the names that a step uses at a time of the clock fit a disk. -/
def Step.Fits (s : Settings) (dir : Path) (clock : Clock) : Step → Prop
  | .compile r => r.config.validate = .ok () → ∀ later, clock.advance? = some later →
      RequestFits s dir later.current r
  | .contains key | .read key | .write key _ => KeyFits s key
  | .keys | .clear => True

/-- Whether the names that the steps of a session use fit a disk. -/
def Fits (s : Settings) (dir : Path) (clock : Clock) (steps : List Step) : Prop :=
  ∀ before first after, steps = before ++ first :: after →
    ∀ now, clockAfter? clock before = some now → first.Fits s dir now

variable {here : Location} {s : Settings} {dir : Path} {t : FileTree} {m : Memory} {clock : Clock}
  {steps : List Step} {first : Step}

theorem Fits.head (fits : Fits s dir clock (first :: steps)) : first.Fits s dir clock :=
  fits [] first steps rfl clock rfl

theorem Fits.tail {later : Clock} (fits : Fits s dir clock (first :: steps))
    (behind : first.clockBehind? clock = some later) : Fits s dir later steps := by
  intro before next after split now reached
  refine fits (first :: before) next after (by rw [split, List.cons_append]) now ?_
  rw [clockAfter?_cons, behind, Option.bind_some, reached]

theorem Fits.nil (s : Settings) (dir : Path) (clock : Clock) : Fits s dir clock [] := by
  intro before first after split
  simp at split

theorem Fits.cons (fits : first.Fits s dir clock)
    (others : ∀ later, first.clockBehind? clock = some later → Fits s dir later steps) :
    Fits s dir clock (first :: steps) := by
  intro before next after split now reached
  cases before with
  | nil =>
      obtain ⟨rfl, rfl⟩ := List.cons.inj split
      cases reached
      exact fits
  | cons front before =>
      obtain ⟨rfl, rest⟩ := List.cons.inj split
      rw [clockAfter?_cons, Option.bind_eq_some_iff] at reached
      obtain ⟨later, behind, reached⟩ := reached
      exact others later behind before next after rest now reached

theorem Fits.of_isPrefix {before : List Step} (fits : Fits s dir clock steps)
    (isPrefix : before <+: steps) : Fits s dir clock before := by
  obtain ⟨behind, rfl⟩ := isPrefix
  intro front next after split now reached
  exact fits front next (after ++ behind) (by rw [split]; simp) now reached

/-! ## Steps -/

theorem step_mirrors (mirrors : Mirrors here s dir t m) (plain : PlainStores s dir)
    (filled : s.cachePath.text ≠ "") (noDot : ¬ s.cachePath.EndsInDot)
    (fits : first.Fits s dir clock)
    (apart : Apart here s dir (taken (step s Memory.stores clock first) m).2) :
    ∃ u, taken (step s (Disk.stores access s) clock first) t =
        ((taken (step s Memory.stores clock first) m).1, u) ∧
      Mirrors here s dir u (taken (step s Memory.stores clock first) m).2 := by
  cases first with
  | compile r =>
      obtain ⟨u, compiled, mirrors'⟩ := mirrors.compile plain noDot fits apart
      refine ⟨u, ?_, mirrors'⟩
      simp only [step, taken_bind, compiled, taken_pure]
  | contains key =>
      have contained := mirrors.contains plain fits.entryName
      refine ⟨t, ?_, mirrors⟩
      simp only [step, taken_bind, contained, Memory.taken_contains, taken_pure]
  | read key =>
      have read := mirrors.read plain fits.entryName
      refine ⟨t, ?_, mirrors⟩
      simp only [step, taken_bind, read, Memory.taken_read, taken_pure]
  | write key text =>
      obtain ⟨u, written, mirrors'⟩ := mirrors.write plain noDot fits.entryName apart
      refine ⟨u, ?_, mirrors'⟩
      simp only [step, taken_bind, written, Memory.taken_write, taken_pure]
  | keys =>
      have listed := mirrors.listed plain filled
      refine ⟨t, ?_, mirrors⟩
      simp only [step, taken_bind, listed, Memory.taken_keys, taken_pure]
  | clear =>
      obtain ⟨u, cleared, mirrors'⟩ := mirrors.clear plain filled
      refine ⟨u, ?_, mirrors'⟩
      simp only [step, taken_bind, cleared, Memory.taken_clear, taken_pure]

theorem step_named (named : Named s dir m) (plain : PlainStores s dir)
    (fits : first.Fits s dir clock) : Named s dir (taken (step s Memory.stores clock first) m).2 := by
  cases first with
  | compile r => exact named.compile plain fits
  | write key text => exact named.insert fits.entryName text
  | clear =>
      refine named.fewer fun key text kept => ?_
      simp at kept
  | contains | read | keys => exact named

/-! ## Runs -/

/-- A session on a disk that mirrors a memory is answered as in memory, and the disk goes on
mirroring the memory. -/
theorem run_mirrors (mirrors : Mirrors here s dir t m) (plain : PlainStores s dir)
    (filled : s.cachePath.text ≠ "") (noDot : ¬ s.cachePath.EndsInDot)
    (fits : Fits s dir clock steps)
    (apart : ∀ before, before <+: steps →
      Apart here s dir (taken (run s Memory.stores clock before) m).2) :
    ∃ u, taken (run s (Disk.stores access s) clock steps) t =
        ((taken (run s Memory.stores clock steps) m).1, u) ∧
      Mirrors here s dir u (taken (run s Memory.stores clock steps) m).2 := by
  induction steps generalizing clock t m with
  | nil => exact ⟨t, rfl, mirrors⟩
  | cons first steps ih =>
      -- The first step is a run of its own, so what is asked of every beginning holds behind it.
      have apart' : Apart here s dir (taken (step s Memory.stores clock first) m).2 := by
        have alone := apart [first] (by simp)
        cases behind : first.clockBehind? clock with
        | none => rwa [taken_run_cons_none s _ _ _ behind] at alone
        | some later => rwa [taken_run_cons s _ _ _ behind] at alone
      obtain ⟨v, answered, mirrors'⟩ := step_mirrors mirrors plain filled noDot fits.head apart'
      cases behind : first.clockBehind? clock with
      | none =>
          rw [taken_run_cons_none s _ _ _ behind, taken_run_cons_none s _ _ _ behind, answered]
          exact ⟨v, rfl, mirrors'⟩
      | some later =>
          have others : ∀ before, before <+: steps → Apart here s dir
              (taken (run s Memory.stores later before)
                (taken (step s Memory.stores clock first) m).2).2 := by
            intro before isPrefix
            have longer := apart (first :: before) (by simpa using isPrefix)
            rwa [taken_run_cons s _ _ _ behind] at longer
          obtain ⟨u, rest, mirrors''⟩ := ih mirrors' (fits.tail behind) others
          rw [taken_run_cons s _ _ _ behind, taken_run_cons s _ _ _ behind, answered]
          refine ⟨u, ?_, mirrors''⟩
          rw [rest]

theorem run_named (named : Named s dir m) (plain : PlainStores s dir)
    (fits : Fits s dir clock steps) :
    Named s dir (taken (run s Memory.stores clock steps) m).2 := by
  induction steps generalizing clock m with
  | nil => exact named
  | cons first steps ih =>
      have named' := step_named named plain fits.head
      cases behind : first.clockBehind? clock with
      | none => rwa [taken_run_cons_none s _ _ _ behind]
      | some later =>
          rw [taken_run_cons s _ _ _ behind]
          exact ih named' (fits.tail behind)

/-- Where no directory on the way to either is named like a file of the other store, all files stay
out of the way. -/
theorem apart_of_fits (here : Location) (plain : PlainStores s dir) (fits : Fits s dir clock steps)
    (noEntry : ∀ name, CacheKey.start.toList.isPrefixOf name.toList = true →
      ¬ s.cachePath.route ++ [name] <+: dir.route)
    (noFile : ∀ name, CacheKey.start.toList.isPrefixOf name.toList = false →
      ¬ dir.route ++ [name] <+: s.cachePath.route) :
    ∀ before, before <+: steps →
      Apart here s dir (taken (run s Memory.stores clock before) Memory.empty).2 := by
  intro before isPrefix
  have named := run_named (named_empty s dir) plain (fits.of_isPrefix isPrefix)
  exact named.apart plain noEntry noFile here

/-! ## Sessions from the start -/

instance decidableEqResult {ε α : Type} [DecidableEq ε] [DecidableEq α] :
    DecidableEq (Except ε α)
  | .ok a, .ok b => decidable_of_iff (a = b) ⟨congrArg Except.ok, Except.ok.inj⟩
  | .ok _, .error _ => isFalse (by simp)
  | .error _, .ok _ => isFalse (by simp)
  | .error a, .error b => decidable_of_iff (a = b) ⟨congrArg Except.error, Except.error.inj⟩

deriving instance DecidableEq for Answer

/--
A session on an empty disk is answered as in an empty memory, and behind every step the files are
the entries and the migrations in memory. The path of the cache is not empty and does not end with a
`.` behind a name, and neither directory lies at or below a file of the other store.
-/
theorem disk_session_mirrors_memory (here : Location) (plain : PlainStores s dir)
    (filled : s.cachePath.text ≠ "") (noDot : ¬ s.cachePath.EndsInDot)
    (fits : Fits s dir clock steps)
    (apart : ∀ before, before <+: steps →
      Apart here s dir (taken (run s Memory.stores clock before) Memory.empty).2) :
    (taken (run s (Disk.stores access s) clock steps) (FileTree.empty here)).1 =
        (taken (run s Memory.stores clock steps) Memory.empty).1 ∧
      ∀ before, before <+: steps → ∀ place content,
        file? (taken (run s (Disk.stores access s) clock before) (FileTree.empty here)).2 place =
            some content ↔
          Stored here s (taken (run s Memory.stores clock before) Memory.empty).2 place content := by
  have empty := mirrors_empty s dir here
  refine ⟨?_, fun before isPrefix place content => ?_⟩
  · obtain ⟨u, answered, _⟩ := run_mirrors empty plain filled noDot fits apart
    rw [answered]
  · obtain ⟨u, answered, mirrors⟩ := run_mirrors empty plain filled noDot
      (fits.of_isPrefix isPrefix) fun front above => apart front (above.trans isPrefix)
    rw [answered]
    exact mirrors.stored place content

/-- A request for a migration in a directory of choice. -/
def requestIn (directory : String) : Request where
  stub := ⟨"stub", "new"⟩
  name := "Person"
  model := ⟨[]⟩
  config := ⟨none, directory⟩
  hash := "h"
  extensions := []

/-- The key of the requests. -/
def keyOfH : CacheKey := ⟨"migration_h.scf"⟩

theorem keyFits_keyOfH {s : Settings}
    (limit : (entryPath s.cachePath keyOfH).text.utf8ByteSize < pathLimit) : KeyFits s keyOfH :=
  ⟨⟨"h", ".scf", rfl, by decide⟩, by decide, limit⟩

/-- Two requests for one directory, the second with another spelling of it, and looks into the
cache between them. -/
theorem disk_session_mirrors_memory_two_spellings :
    let steps : List Step := [.write keyOfH "old", .compile (requestIn "out"), .clear,
      .compile (requestIn "./out"), .keys]
    PlainStores .standard ⟨"./out"⟩ ∧ Fits .standard ⟨"./out"⟩ (.startingAt ⟨0⟩) steps ∧
      (∀ before, before <+: steps → Apart ["w"] .standard ⟨"./out"⟩
        (taken (run .standard Memory.stores (.startingAt ⟨0⟩) before) Memory.empty).2) ∧
      (taken (run .standard (Disk.stores access .standard) (.startingAt ⟨0⟩) steps)
          (FileTree.empty ["w"])).1 =
        (taken (run .standard Memory.stores (.startingAt ⟨0⟩) steps) Memory.empty).1 ∧
      ∀ before, before <+: steps → ∀ place content,
        file? (taken (run .standard (Disk.stores access .standard) (.startingAt ⟨0⟩) before)
            (FileTree.empty ["w"])).2 place = some content ↔
          Stored ["w"] .standard
            (taken (run .standard Memory.stores (.startingAt ⟨0⟩) before) Memory.empty).2 place
            content := by
  intro steps
  have plain : PlainStores .standard ⟨"./out"⟩ :=
    ⟨by decide +kernel, by decide +kernel, by decide +kernel⟩
  have key : KeyFits .standard keyOfH := keyFits_keyOfH (by decide)
  have request : ∀ directory ∈ ["out", "./out"], ∀ time ∈ [(⟨5⟩ : Timestamp), ⟨10⟩],
      RequestFits .standard ⟨"./out"⟩ time (requestIn directory) := by
    have names : ∀ directory ∈ ["out", "./out"], ∀ time ∈ [(⟨5⟩ : Timestamp), ⟨10⟩],
        (Settings.standard.resolve directory).components = Path.components ⟨"./out"⟩ ∧
          (Settings.standard.resolve directory).Plain ∧
          (Compiler.destination .standard "Person" ⟨none, directory⟩ time).text.utf8ByteSize <
            pathLimit ∧
          (migrationFileName time "Person" ".php").utf8ByteSize ≤ greatestName := by
      decide +kernel
    intro directory mem time mem'
    obtain ⟨spelled, directory, limit, short⟩ := names directory mem time mem'
    refine ⟨spelled, directory, (by decide : Nameable "Person"), short, limit, ?_⟩
    intro other made
    have same : CacheKey.ofHash "h" ".scf" = .ok keyOfH := rfl
    obtain rfl := Except.ok.inj (same.symm.trans made)
    exact key
  have fits : Fits .standard ⟨"./out"⟩ (.startingAt ⟨0⟩) steps := by
    refine .cons key ?_
    rintro _ ⟨⟩
    refine .cons ?_ ?_
    · rintro _ _ ⟨⟩
      exact request "out" (by simp) ⟨5⟩ (by simp)
    · rintro _ ⟨⟩
      refine .cons trivial ?_
      rintro _ ⟨⟩
      refine .cons ?_ ?_
      · rintro _ _ ⟨⟩
        exact request "./out" (by simp) ⟨10⟩ (by simp)
      · rintro _ ⟨⟩
        exact .cons trivial fun _ _ => .nil _ _ _
  have routes : Settings.standard.cachePath.route = ["scaffolder-config", "cache"] ∧
      Path.route ⟨"./out"⟩ = ["out"] := by decide
  have apart := apart_of_fits ["w"] plain fits (by simp [routes]) (by simp [routes])
  exact ⟨plain, fits, apart,
    disk_session_mirrors_memory ["w"] plain (by decide) (by decide) fits apart⟩

/-- Settings whose path of the cache ends with a `.` behind a name. -/
def dotted : Settings := { Settings.standard with cacheDirectory := ⟨"cache/."⟩ }

/-- Settings whose path of the cache is empty. -/
def blank : Settings := { Settings.standard with basePath := ⟨""⟩, cacheDirectory := ⟨""⟩ }

/-- Whether a session is answered otherwise on an empty disk than in an empty memory, though all its
names fit and neither directory lies at or below a file of the other store. -/
structure Departs (here : Location) (s : Settings) (dir : Path) (clock : Clock)
    (steps : List Step) : Prop where
  plain : PlainStores s dir
  fits : Fits s dir clock steps
  apart : ∀ before, before <+: steps →
    Apart here s dir (taken (run s Memory.stores clock before) Memory.empty).2
  answers : (taken (run s (Disk.stores access s) clock steps) (FileTree.empty here)).1 ≠
    (taken (run s Memory.stores clock steps) Memory.empty).1

/--
Where the path of the cache ends with a `.` behind a name, a write is refused that goes through in
memory; and where it is empty, no entry is listed.
-/
theorem disk_session_departs_from_memory :
    Departs ["w"] dotted ⟨"out"⟩ (.startingAt ⟨0⟩) [.write keyOfH "new", .contains keyOfH] ∧
      Departs ["w"] blank ⟨"out"⟩ (.startingAt ⟨0⟩) [.write keyOfH "new", .keys] := by
  constructor
  · have plain : PlainStores dotted ⟨"out"⟩ :=
      ⟨by decide +kernel, by decide +kernel, by decide +kernel⟩
    have fit : KeyFits dotted keyOfH := keyFits_keyOfH (by decide)
    have fits : Fits dotted ⟨"out"⟩ (.startingAt ⟨0⟩) [.write keyOfH "new", .contains keyOfH] :=
      .cons fit fun _ _ => .cons fit fun _ _ => .nil _ _ _
    have routes : dotted.cachePath.route = ["cache"] ∧ Path.route ⟨"out"⟩ = ["out"] := by decide
    have apart := apart_of_fits ["w"] plain fits (by simp [routes]) (by simp [routes])
    exact ⟨plain, fits, apart, by decide +kernel⟩
  · have plain : PlainStores blank ⟨"out"⟩ :=
      ⟨by decide +kernel, by decide +kernel, by decide +kernel⟩
    have fit : KeyFits blank keyOfH := keyFits_keyOfH (by decide)
    have fits : Fits blank ⟨"out"⟩ (.startingAt ⟨0⟩) [.write keyOfH "new", .keys] :=
      .cons fit fun _ _ => .cons trivial fun _ _ => .nil _ _ _
    have routes : blank.cachePath.route = [] ∧ Path.route ⟨"out"⟩ = ["out"] := by decide
    have noEntry : ∀ name, CacheKey.start.toList.isPrefixOf name.toList = true →
        ¬ blank.cachePath.route ++ [name] <+: Path.route ⟨"out"⟩ := by
      intro name entry above
      rw [routes.1, routes.2] at above
      obtain rfl : name = "out" := by simpa using above
      exact absurd entry (by decide)
    have apart := apart_of_fits ["w"] plain fits noEntry (by simp [routes])
    exact ⟨plain, fits, apart, by decide +kernel⟩

end ModelMigration.Session
