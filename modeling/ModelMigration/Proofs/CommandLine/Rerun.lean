import Mathlib.Data.List.Forall2
import Mathlib.Data.Set.Function
import ModelMigration.Proofs.Cache.Coverage
import ModelMigration.Proofs.Cache.SharedParts
import ModelMigration.Proofs.CommandLine.InTree
import ModelMigration.Proofs.Compile.Again

/-!
# Commands that are run again

A command that succeeded succeeds again on the tree that it left: each of its models is served from
the cache. It also succeeds with the same texts after the cache was emptied, where the cache held no
other entries and no two of the digested inputs collide.
-/

namespace ModelMigration.CommandLine

open Disk Disk.FileTree Compiler ModelMigration.Path

variable {job : Job} {clock : Clock} {path path' : Path} {paths : List Path} {t u w x : FileTree}
  {r r' : Request} {done : List (Request × Artifact)} {kept placed : Location} {emptied : Prop}

/-! ## Runs that are made again -/

/-- A run is made again, from a clock that is not behind the first one. -/
theorem compilesAll_again (plain : job.settings.SlashFree) (names : job.arguments.PlainNames paths)
    (run : CompilesAll access job clock paths x done u)
    (roots : Roots job.settings job.outputDirectory kept placed u)
    (asks : List.Forall₂ (fun path item => job.Asks u path item.1) paths done)
    (stand : ∀ item ∈ done, Stands job.settings kept placed item.1 item.2 u)
    (outside : ∀ path ∈ paths, Outside u kept placed path)
    (built : emptied → ∀ item ∈ done, build job.settings item.1 = .ok item.2.content)
    {second : Clock} (step : second.step = clock.step)
    (notBefore : clock.current.seconds ≤ second.current.seconds)
    (room : ∀ n item, done[n]? = some item → HasRoom job.settings u item.1 (second.ahead n))
    (serves : Serves emptied kept placed u w) :
    ∃ again v, CompilesAll access job second paths w again v ∧
      again.map (·.2.content) = done.map (·.2.content) ∧
      (¬ emptied → ∀ item ∈ again, item.2.fromCache = true) := by
  induction run generalizing second w with
  | nil => exact ⟨[], w, .nil, rfl, by simp⟩
  | @cons _ later _ _ _ _ u _ _ done first others ih =>
      cases asks with
      | cons asked asks =>
          obtain ⟨_, valid, advance, brought⟩ :=
            brought_of_compiles plain (names _ List.mem_cons_self) first
          obtain ⟨moved, steps⟩ := Clock.advance?_eq_some advance
          have dated := second.seconds_ahead_zero
          have roots' := roots
          rw [← asked.outputDirectory_eq] at roots'
          obtain ⟨b, calls, v, again, serves', content, cached⟩ :=
            compile_again serves roots' (stand _ List.mem_cons_self)
              (fun gone => built gone _ List.mem_cons_self) valid
              (by rw [brought.timestamp]; omega) (room 0 _ rfl)
          obtain ⟨text, model, read, parsed, request⟩ := Job.asks_iff.mp asked
          have read' := serves.readText (outside _ List.mem_cons_self) read
          have loaded := loadModel_eq_ok_iff.mpr ⟨rfl, text, read', parsed⟩
          -- The others start from the clock that the first leaves, in a tree that still serves.
          let next : Clock := ⟨second.ahead 0, second.step⟩
          have room' : ∀ n item, done[n]? = some item →
              HasRoom job.settings u item.1 (next.ahead n) := by
            intro n item there
            rw [Clock.ahead_succ]
            exact room (n + 1) item there
          have steps' : next.step = later.step := step.trans steps.symm
          obtain ⟨more, v', rest, contents, allCached⟩ :=
            ih (fun path mem => names path (List.mem_cons_of_mem _ mem)) roots asks
              (fun item mem => stand item (List.mem_cons_of_mem _ mem))
              (fun path mem => outside path (List.mem_cons_of_mem _ mem))
              (fun gone item mem => built gone item (List.mem_cons_of_mem _ mem))
              steps' (by show _ ≤ (second.ahead 0).seconds; omega) room' serves'
          refine ⟨(_, b) :: more, v', .cons ⟨model, w, loaded, request, calls, again⟩ rest, ?_, ?_⟩
          · rw [List.map_cons, List.map_cons, contents, content]
          · intro kept item mem
            rcases List.mem_cons.mp mem with rfl | mem
            · exact cached kept
            · exact allCached kept item mem

/-! ## Documents read again -/

variable {s : Settings} {base : Path} {now later : Timestamp} {arguments : CompileArguments}
  {config : Config} {stub : Stub} {first : List Artifact} {z : FileTree}

/-- The files that a command reads. -/
def CompileArguments.inputs (arguments : CompileArguments) : List Path :=
  arguments.config :: (arguments.stub?.toList ++ arguments.models)

theorem stubOf_again (read : taken (stubOf access arguments) t = (.ok stub, z))
    (same : ∀ p ∈ arguments.inputs, ∀ text, t.readText p = .ok text → w.readText p = .ok text) :
    z = t ∧ taken (stubOf access arguments) w = (.ok stub, w) := by
  unfold CompileArguments.inputs at same
  unfold stubOf at *
  cases given : arguments.stub? with
  | none =>
      rw [given] at read
      cases read
      exact ⟨rfl, rfl⟩
  | some path =>
      simp only [given] at read ⊢
      obtain ⟨rfl, text, found, named⟩ := loadStub_eq_ok_iff.mp read
      have found' := same path (by simp [given]) text found
      exact ⟨rfl, loadStub_eq_ok_iff.mpr ⟨rfl, text, found', named⟩⟩

/-- A command comes as far on a tree in which its documents can be read as before. -/
theorem Prepares.again (prepared : Prepares access s now arguments t config stub clock z)
    (same : ∀ p ∈ arguments.inputs, ∀ text, t.readText p = .ok text → w.readText p = .ok text)
    {second : Clock} (starts : (Clock.startingAt later).withStep? s.stepSeconds = some second) :
    Prepares access s later arguments w config stub second w := by
  obtain ⟨agree, ⟨y, loaded, read⟩, _⟩ := prepared
  obtain ⟨rfl, text, found, parsed⟩ := loadConfig_eq_ok_iff.mp loaded
  have found' := same arguments.config List.mem_cons_self text found
  exact ⟨agree, ⟨w, loadConfig_eq_ok_iff.mpr ⟨rfl, text, found', parsed⟩,
    (stubOf_again read same).2⟩, starts⟩

theorem starts_ofProject (base : Path) (now : Timestamp) :
    (Clock.startingAt now).withStep? (Settings.ofProject base).stepSeconds =
      some (Clock.startingAt now) := rfl

theorem ticks_startingAt (now : Timestamp) : 0 < (Clock.startingAt now).step := Nat.succ_pos _

theorem slashFree_ofProject (base : Path) : (Settings.ofProject base).SlashFree :=
  ⟨(by decide : '/' ∉ ".scf".toList), (by decide : '/' ∉ ".php".toList)⟩

theorem cachePath_ofProject_ne_empty (base : Path) :
    (Settings.ofProject base).cachePath.text ≠ "" := by
  have relative : Path.isAbsolute ⟨"scaffolder-config/cache"⟩ = false := by decide
  have joined : (Settings.ofProject base).cachePath = base.join ⟨"scaffolder-config/cache"⟩ :=
    if_neg (ne_true_of_eq_false relative)
  rw [joined, text_join base relative]
  simp

/-! ## Commands -/

/-- Whether a location is at or below the directory that a path leads to. -/
def Within (t : FileTree) (dir : Path) (place : Location) : Prop :=
  ∃ root, t.LeadsTo dir root ∧ root <+: place

/-- A command of a project that succeeded, from a tree to another. The files that it read stand
outside the directories of the cache and of the migrations. -/
structure Ran (base : Path) (now : Timestamp) (arguments : CompileArguments) (config : Config)
    (stub : Stub) (t : FileTree) (first : List Artifact) (u : FileTree) : Prop where
  succeeded : taken (compile access (.ofProject base) now arguments) t = (.ok first, u)
  config_eq : (taken (loadConfig access arguments.config) t).1 = .ok config
  stub_eq : (taken (stubOf access arguments) t).1 = .ok stub
  names : arguments.PlainNames arguments.models
  outside : ∀ p ∈ arguments.inputs, ∀ place content, u.find p = .ok (place, .file content) →
    ¬ Within u (Settings.ofProject base).cachePath place ∧
      ¬ Within u ((Settings.ofProject base).resolve config.migrations) place

/-- Whether the migrations of a command that is run at a time have years up to 9999 and find no
directories in their places. -/
structure RoomAt (base : Path) (later : Timestamp) (arguments : CompileArguments) (config : Config)
    (u : FileTree) : Prop where
  year : ∀ n < arguments.models.length, ((Clock.startingAt later).ahead n).date.year ≤ 9999
  free : ∀ n path name, arguments.models[n]? = some path → arguments.nameOf? path = some name →
    u.hasDirectory (destination (.ofProject base) name config ((Clock.startingAt later).ahead n)) =
      false

/-- Whether a cache has no entries in a tree: none are listed, and none stand in the directory that
its path leads to once it is made. -/
structure EmptyCache (s : Settings) (t u : FileTree) : Prop where
  listed : (taken ((stores access s).cache.keys) t).1 = .ok []
  none : ∀ directory, u.LeadsTo s.cachePath directory → entryNames t directory = []

/-- Whether no two inputs that are digested for the models of a job have one digest. -/
def Job.NoCollision (job : Job) (t : FileTree) : Prop :=
  Set.InjOn Bytes.Sha256.digest {bytes | ∃ path ∈ job.arguments.models, ∃ r,
    job.Asks t path r ∧ bytes = Fingerprint.stream r.parts}

theorem Job.eq_of_hash_eq (unhashed : job.arguments.hash? = none) (noCollision : job.NoCollision t)
    (mem : path ∈ job.arguments.models) (mem' : path' ∈ job.arguments.models)
    (asks : job.Asks t path r) (asks' : job.Asks t path' r')
    (short : r.name.utf8ByteSize < 2 ^ 32) (short' : r'.name.utf8ByteSize < 2 ^ 32)
    (same : r.hash = r'.hash) : r = r' := by
  obtain ⟨model, loaded, asked⟩ := asks
  obtain ⟨model', loaded', asked'⟩ := asks'
  obtain ⟨name, named, rfl⟩ := Job.request_eq_ok_iff.mp asked
  obtain ⟨name', named', rfl⟩ := Job.request_eq_ok_iff.mp asked'
  simp only [unhashed, Option.getD_none] at same
  have streams := noCollision ⟨path, mem, _, ⟨model, loaded, asked⟩, rfl⟩
    ⟨path', mem', _, ⟨model', loaded', asked'⟩, rfl⟩ (digest_eq_of_fingerprint_eq same)
  obtain ⟨rfl, rfl⟩ := Fingerprint.eq_of_stream_eq short short' streams
  rfl

/-! ## What a command left -/

theorem Ran.prepares (ran : Ran base now arguments config stub t first u) :
    Prepares access (.ofProject base) now arguments t config stub (.startingAt now) t := by
  obtain ⟨config', stub', clock, z, prepared⟩ := prepares_of_compile ran.succeeded
  obtain ⟨y, loaded, read⟩ := prepared.exists_state
  obtain ⟨rfl, _⟩ := loadConfig_eq_ok_iff.mp loaded
  obtain ⟨rfl, _⟩ := stubOf_again read fun _ _ _ => id
  have configs := ran.config_eq
  have stubs := ran.stub_eq
  have clocks := prepared.starts
  rw [loaded] at configs
  rw [read] at stubs
  rw [starts_ofProject] at clocks
  cases configs
  cases stubs
  cases clocks
  exact prepared

theorem Ran.exists_run (ran : Ran base now arguments config stub t first u) :
    ∃ done, CompilesAll access (arguments.jobWith (.ofProject base) config stub) (.startingAt now)
      arguments.models t done u ∧ first = done.map Prod.snd := by
  have compiled := ran.succeeded
  rw [ran.prepares.taken_compile] at compiled
  exact compilesAll_of_compileEach compiled

theorem Ran.outside_roots (ran : Ran base now arguments config stub t first u)
    (roots : Roots (.ofProject base) ((Settings.ofProject base).resolve config.migrations) kept placed
      u) : ∀ p ∈ arguments.inputs, Outside u kept placed p := by
  intro p mem place content found
  obtain ⟨outKept, outPlaced⟩ := ran.outside p mem place content found
  exact ⟨fun within => outKept ⟨kept, roots.cache, within⟩,
    fun within => outPlaced ⟨placed, roots.output, within⟩⟩

theorem exists_getElem?_of_asks {n : Nat} {item : Request × Artifact}
    (asks : List.Forall₂ (fun path item => job.Asks u path item.1) paths done)
    (there : done[n]? = some item) : ∃ path, paths[n]? = some path ∧ job.Asks u path item.1 := by
  obtain ⟨inside, rfl⟩ := List.getElem?_eq_some_iff.mp there
  have inside' : n < paths.length := asks.length_eq ▸ inside
  exact ⟨paths[n], List.getElem?_eq_getElem inside', asks.get inside' inside⟩

/-- Whether a command that is run at a time on a tree succeeds with migrations of the given texts,
and these are in their files behind it. -/
def Rewrites (base : Path) (later : Timestamp) (arguments : CompileArguments) (w : FileTree)
    (texts : List String) (second : List Artifact) : Prop :=
  ∃ v, taken (compile access (.ofProject base) later arguments) w = (.ok second, v) ∧
    second.map Artifact.content = texts ∧ ∀ a ∈ second, v.readText a.path = .ok a.content

/-- A command runs again on a tree that serves for the one that it left. -/
theorem Ran.rewrites (ran : Ran base now arguments config stub t first u)
    (run : CompilesAll access (arguments.jobWith (.ofProject base) config stub) (.startingAt now)
      arguments.models t done u)
    (roots : Roots (.ofProject base) ((Settings.ofProject base).resolve config.migrations) kept placed
      u)
    (notBefore : now.seconds ≤ later.seconds) (room : RoomAt base later arguments config u)
    (built : emptied → ∀ item ∈ done, build (.ofProject base) item.1 = .ok item.2.content)
    (serves : Serves emptied kept placed u w) :
    ∃ second, Rewrites base later arguments w (done.map (·.2.content)) second ∧
      (¬ emptied → ∀ a ∈ second, a.fromCache = true) := by
  have plain := slashFree_ofProject base
  have ticks := ticks_startingAt now
  have steps : (Clock.startingAt later).step = (Clock.startingAt now).step := rfl
  have outside := ran.outside_roots roots
  have inModels : ∀ path ∈ arguments.models, path ∈ arguments.inputs := by
    intro path mem
    simp [CompileArguments.inputs, mem]
  obtain ⟨passed, stand⟩ := passed_of_compilesAll plain ran.names run ticks roots
  have asks := asks_of_compilesAll plain ran.names run ticks roots
    fun path mem => outside path (inModels path mem)
  have rooms : ∀ n item, done[n]? = some item →
      HasRoom (.ofProject base) u item.1 ((Clock.startingAt later).ahead n) := by
    intro n item there
    obtain ⟨path, named, asked⟩ := exists_getElem?_of_asks asks there
    obtain ⟨inside, _⟩ := List.getElem?_eq_some_iff.mp named
    obtain ⟨model, _, request⟩ := asked
    obtain ⟨name, given, same⟩ := Job.request_eq_ok_iff.mp request
    rw [same]
    exact ⟨room.year n inside, room.free n path name named given⟩
  have prepared := ran.prepares.again
    (fun p mem text read => serves.readText (outside p mem) (passed.readText (outside p mem) read))
    (starts_ofProject base later)
  obtain ⟨again, v, rerun, contents, cached⟩ := compilesAll_again plain ran.names run roots asks
    stand (fun path mem => outside path (inModels path mem)) built steps notBefore rooms serves
  refine ⟨again.map Prod.snd, ⟨v, ?_, ?_, ?_⟩, ?_⟩
  · rw [prepared.taken_compile, rerun.taken_compileEach]
  · rw [List.map_map, ← contents]
    rfl
  · intro a mem
    obtain ⟨item, inAgain, rfl⟩ := List.mem_map.mp mem
    exact readText_of_compilesAll plain ran.names rerun (ticks_startingAt later) item inAgain
  · intro kept a mem
    obtain ⟨item, inAgain, rfl⟩ := List.mem_map.mp mem
    exact cached kept item inAgain

/-! ## After the cache was emptied -/

theorem EmptyCache.entriesBuilt {asked : Request → Prop} (empty : EmptyCache s t u)
    (leads : u.LeadsTo s.cachePath kept) : EntriesBuilt s asked kept t := by
  intro name content start there
  have mem := mem_entryNames_iff.mpr ⟨⟨content, there⟩, start⟩
  rw [empty.none kept leads] at mem
  cases mem

theorem taken_cacheKeys_unchanged (directory : Path) (t : FileTree) :
    (taken (cacheKeys access directory) t).2 = t := by
  have list : taken (access.list directory) t = (t.list directory, t) := rfl
  simp only [cacheKeys, taken_bind, taken_isDirectory, taken_ite, list]
  split
  · rfl
  · cases t.list directory <;> rfl

/-- Emptying a cache that has no entries changes nothing. -/
theorem EmptyCache.taken_clear (empty : EmptyCache s t u) :
    (taken ((stores access s).cache.clear) t).2 = t := by
  have listed : taken (cacheKeys access s.cachePath) t = (.ok [], t) :=
    Prod.ext empty.listed (taken_cacheKeys_unchanged s.cachePath t)
  simp only [stores, cache, taken_bind, listed]
  rfl

theorem taken_clearCache (s : Settings) (now : Timestamp) (t : FileTree) :
    (taken (runCommand access s now .clearCache) t).2 =
      (taken ((stores access s).cache.clear) t).2 := by
  simp only [runCommand, taken_bind, stores]
  split <;> rfl

/-- The texts of a command are those that are built, if the cache had no entries. -/
theorem Ran.built (ran : Ran base now arguments config stub t first u)
    (run : CompilesAll access (arguments.jobWith (.ofProject base) config stub) (.startingAt now)
      arguments.models t done u)
    (roots : Roots (.ofProject base) ((Settings.ofProject base).resolve config.migrations) kept placed
      u)
    (unhashed : arguments.hash? = none) (empty : EmptyCache (.ofProject base) t u)
    (noCollision : (arguments.jobWith (.ofProject base) config stub).NoCollision u) :
    (∀ item ∈ done, build (.ofProject base) item.1 = .ok item.2.content) ∧
      ∀ name ∈ entryNames u kept, FitsIn (Settings.ofProject base).cachePath name := by
  have plain := slashFree_ofProject base
  have ticks := ticks_startingAt now
  have outside := ran.outside_roots roots
  have stand := (passed_of_compilesAll plain ran.names run ticks roots).2
  have asks := asks_of_compilesAll plain ran.names run ticks roots
    fun path mem => outside path (by simp [CompileArguments.inputs, mem])
  -- A name that fits into a file name is short enough for its length to be digested.
  have short : ∀ item ∈ done, item.1.name.utf8ByteSize < 2 ^ 32 := by
    intro item mem
    have name := (stand item mem).fits.file.short
    have model := utf8ByteSize_le_migrationFileName item.2.timestamp item.1.name
      (Settings.ofProject base).sourceExtension
    unfold outputName greatestName at name
    have : (2 : Nat) ^ 32 = 4294967296 := by decide
    exact Nat.lt_of_le_of_lt (Nat.le_trans model (Nat.mul_le_mul_left 4 name)) (by decide)
  have same : ∀ r r' : Request, (∃ item ∈ done, item.1 = r) → (∃ item ∈ done, item.1 = r') →
      r.hash = r'.hash → r = r' := by
    rintro _ _ ⟨item, mem, rfl⟩ ⟨item', mem', rfl⟩ hashes
    obtain ⟨n, there⟩ := List.getElem?_of_mem mem
    obtain ⟨n', there'⟩ := List.getElem?_of_mem mem'
    obtain ⟨path, named, asked⟩ := exists_getElem?_of_asks asks there
    obtain ⟨path', named', asked'⟩ := exists_getElem?_of_asks asks there'
    exact Job.eq_of_hash_eq unhashed noCollision (List.mem_of_getElem? named)
      (List.mem_of_getElem? named') asked asked' (short item mem) (short item' mem') hashes
  obtain ⟨built, entries⟩ := entriesBuilt_of_compilesAll plain ran.names run roots
    (fun item mem => ⟨item, mem, rfl⟩) same (empty.entriesBuilt roots.cache)
  refine ⟨built, fun name mem => ?_⟩
  obtain ⟨⟨content, there⟩, start⟩ := mem_entryNames_iff.mp mem
  obtain ⟨_, _, ⟨item, inDone, rfl⟩, hash, _⟩ := entries name content start there
  obtain ⟨key, hash', fits, _⟩ := (stand item inDone).exists_entry
  obtain rfl := Except.ok.inj (hash.symm.trans hash')
  exact fits

/-! ## The same texts -/

theorem Ran.eq_of_no_models (ran : Ran base now arguments config stub t first u)
    (none : arguments.models = []) : u = t ∧ first = [] := by
  obtain ⟨done, run, rfl⟩ := ran.exists_run
  rw [none] at run
  cases run
  exact ⟨rfl, rfl⟩

theorem Ran.rewrites_nothing (ran : Ran base now arguments config stub t first u)
    (none : arguments.models = []) (later : Timestamp) : Rewrites base later arguments t [] [] := by
  have prepared := ran.prepares.again (fun _ _ _ read => read) (starts_ofProject base later)
  refine ⟨t, ?_, rfl, by simp⟩
  rw [prepared.taken_compile, none]
  rfl

/--
A command that succeeded, run again at a later time on the tree that it left, succeeds with the same
texts and tells that each of its migrations comes from the cache. After the cache was emptied it also
succeeds with the same texts, if no hash is given, the cache had no entries before the first run, and
no two of the digested inputs have one digest.
-/
theorem command_runs_again (ran : Ran base now arguments config stub t first u)
    (notBefore : now.seconds ≤ later.seconds) (room : RoomAt base later arguments config u) :
    (∀ a ∈ first, u.readText a.path = .ok a.content) ∧
    (∃ second, Rewrites base later arguments u (first.map Artifact.content) second ∧
      (taken (runCommand access (.ofProject base) later (.compile arguments)) u).1 =
        .ok (second.map fun a => "cached  " ++ a.path.text)) ∧
    (arguments.hash? = none → EmptyCache (.ofProject base) t u →
      (arguments.jobWith (.ofProject base) config stub).NoCollision u →
      ∃ second, Rewrites base later arguments
        (taken (runCommand access (.ofProject base) later .clearCache) u).2
        (first.map Artifact.content) second) := by
  have lines {w : FileTree} {second : List Artifact} {texts : List String}
      (again : Rewrites base later arguments w texts second)
      (cached : ∀ a ∈ second, a.fromCache = true) :
      (taken (runCommand access (.ofProject base) later (.compile arguments)) w).1 =
        .ok (second.map fun a => "cached  " ++ a.path.text) := by
    obtain ⟨v, compiled, _⟩ := again
    have told : second.map artifactLine = second.map fun a => "cached  " ++ a.path.text := by
      refine List.map_congr_left fun a mem => ?_
      rw [artifactLine, if_pos (cached a mem)]
    simp only [runCommand, taken_bind, compiled, taken_pure, Except.map, told]
  by_cases none : arguments.models = []
  · obtain ⟨rfl, rfl⟩ := ran.eq_of_no_models none
    have again := ran.rewrites_nothing none later
    refine ⟨by simp, ⟨[], again, lines again (by simp)⟩, fun _ empty _ => ⟨[], ?_⟩⟩
    rw [taken_clearCache, empty.taken_clear]
    exact again
  · obtain ⟨done, run, rfl⟩ := ran.exists_run
    have plain := slashFree_ofProject base
    have written := readText_of_compilesAll plain ran.names run (ticks_startingAt now)
    obtain ⟨kept, placed, roots⟩ := exists_roots_of_compilesAll plain ran.names run none
    rw [List.map_map]
    refine ⟨?_, ?_, fun unhashed empty noCollision => ?_⟩
    · intro a mem
      obtain ⟨item, inDone, rfl⟩ := List.mem_map.mp mem
      exact written item inDone
    · obtain ⟨second, again, cached⟩ := ran.rewrites run roots notBefore room
        (fun gone => gone.elim) (.refl False kept placed u)
      exact ⟨second, again, lines again (cached id)⟩
    · obtain ⟨built, fits⟩ := ran.built run roots unhashed empty noCollision
      have serves := serves_clear roots.cache (cachePath_ofProject_ne_empty base) fits placed
      obtain ⟨second, again, _⟩ := ran.rewrites run roots notBefore room (fun _ => built) serves
      rw [taken_clearCache]
      exact ⟨second, again⟩

/-! ## A model named twice -/

/-- A project with a configuration, a template and a model. -/
def smallProject : FileTree :=
  let documents := [("c.json", Config.toJson ⟨none, "m"⟩), ("s.stub", "new"),
    ("a.json", Model.toJson ⟨[]⟩)]
  documents.foldl (fun t (name, text) => t.put ["w", name] (.file text.toUTF8))
    (FileTree.empty ["w"])

/-- Compiles the model of the project twice. -/
def twice : CompileArguments :=
  ⟨[⟨"/w/a.json"⟩, ⟨"/w/a.json"⟩], ⟨"/w/c.json"⟩, none, some ⟨"/w/s.stub"⟩, none, false⟩

theorem eq_pair_of_fst {α β : Type} {p : α × β} {a : α} (h : p.1 = a) : p = (a, p.2) := by
  cases h
  rfl

/-- The migrations of the first run, and the places of those that are dated from two seconds later. -/
theorem compile_twice :
    let ended := taken (compile access (.ofProject ⟨"/w"⟩) ⟨0⟩ twice) smallProject
    (ended.1.toOption, ended.2.hasDirectory ⟨"/w/m/0000_01_01_000007_create_as_table.php"⟩,
        ended.2.hasDirectory ⟨"/w/m/0000_01_01_000012_create_as_table.php"⟩) =
      (some [⟨⟨"/w/m/0000_01_01_000005_create_as_table.php"⟩, "new", false, ⟨5⟩⟩,
        ⟨⟨"/w/m/0000_01_01_000010_create_as_table.php"⟩, "new", true, ⟨10⟩⟩], false, false) := by
  decide +kernel

/-- The second request for the model is served from the cache, in the first run and in the others. -/
theorem command_runs_again_twice :
    let u := (taken (compile access (.ofProject ⟨"/w"⟩) ⟨0⟩ twice) smallProject).2
    let first : List Artifact := [⟨⟨"/w/m/0000_01_01_000005_create_as_table.php"⟩, "new", false, ⟨5⟩⟩,
      ⟨⟨"/w/m/0000_01_01_000010_create_as_table.php"⟩, "new", true, ⟨10⟩⟩]
    let job := twice.jobWith (.ofProject ⟨"/w"⟩) ⟨none, "m"⟩ ⟨"s", "new"⟩
    Ran ⟨"/w"⟩ ⟨0⟩ twice ⟨none, "m"⟩ ⟨"s", "new"⟩ smallProject first u ∧
      RoomAt ⟨"/w"⟩ ⟨2⟩ twice ⟨none, "m"⟩ u ∧ twice.hash? = none ∧
      EmptyCache (.ofProject ⟨"/w"⟩) smallProject u ∧ job.NoCollision u ∧
      (∃ second, Rewrites ⟨"/w"⟩ ⟨2⟩ twice u ["new", "new"] second ∧
        (taken (runCommand access (.ofProject ⟨"/w"⟩) ⟨2⟩ (.compile twice)) u).1 =
          .ok (second.map fun a => "cached  " ++ a.path.text)) ∧
      ∃ second, Rewrites ⟨"/w"⟩ ⟨2⟩ twice
        (taken (runCommand access (.ofProject ⟨"/w"⟩) ⟨2⟩ .clearCache) u).2 ["new", "new"] second := by
  intro u first job
  obtain ⟨result, noFirst, noSecond⟩ := Prod.mk.inj compile_twice |>.imp_right Prod.mk.inj
  have named : twice.nameOf? ⟨"/w/a.json"⟩ = some "A" := by decide +kernel
  have models : ∀ path ∈ twice.models, path = ⟨"/w/a.json"⟩ := by simp [twice]
  -- The paths are absolute and have no `..` parts, so they lead where they say in every tree.
  have roots : ∀ dir place, Within u dir place → (dir.join ⟨"."⟩).isAbsolute = true →
      ".." ∉ (dir.join ⟨"."⟩).route → (dir.join ⟨"."⟩).route <+: place := by
    rintro dir place ⟨root, leads, within⟩ absolute noUp
    exact eq_route_of_find absolute noUp leads ▸ within
  have inputs : ∀ p ∈ twice.inputs, p.isAbsolute = true ∧ ".." ∉ p.route ∧
      ¬ ((Settings.ofProject ⟨"/w"⟩).cachePath.join ⟨"."⟩).route <+: p.route ∧
      ¬ (((Settings.ofProject ⟨"/w"⟩).resolve "m").join ⟨"."⟩).route <+: p.route := by
    decide +kernel
  have ran : Ran ⟨"/w"⟩ ⟨0⟩ twice ⟨none, "m"⟩ ⟨"s", "new"⟩ smallProject first u := by
    refine ⟨eq_pair_of_fst (eq_ok_of_toOption result), eq_ok_of_toOption (by decide +kernel),
      eq_ok_of_toOption (by decide +kernel), ?_, ?_⟩
    · intro path mem name given
      rw [models path mem, named] at given
      cases given
      decide
    · intro p mem place content found
      obtain ⟨absolute, noUp, noEntry, noMigration⟩ := inputs p mem
      rw [eq_route_of_find absolute noUp found]
      exact ⟨fun within => noEntry (roots _ _ within (by decide +kernel) (by decide +kernel)),
        fun within => noMigration (roots _ _ within (by decide +kernel) (by decide +kernel))⟩
  have room : RoomAt ⟨"/w"⟩ ⟨2⟩ twice ⟨none, "m"⟩ u := by
    refine ⟨by decide +kernel, fun n path name there given => ?_⟩
    rw [models path (List.mem_of_getElem? there), named] at given
    cases given
    match n, there with
    | 0, _ => exact noFirst
    | 1, _ => exact noSecond
  have empty : EmptyCache (.ofProject ⟨"/w"⟩) smallProject u := by
    refine ⟨eq_ok_of_toOption (by decide +kernel), fun directory leads => ?_⟩
    rw [eq_route_of_find (by decide +kernel) (by decide +kernel) leads]
    decide +kernel
  have noCollision : job.NoCollision u := by
    rintro _ ⟨path, mem, r, ⟨model, loaded, asked⟩, rfl⟩ _
      ⟨path', mem', r', ⟨model', loaded', asked'⟩, rfl⟩ _
    rw [models path mem] at loaded asked
    rw [models path' mem', loaded] at loaded'
    cases loaded'
    rw [models path' mem', asked] at asked'
    cases asked'
    rfl
  obtain ⟨_, again, emptied⟩ := command_runs_again ran (by decide) room
  exact ⟨ran, room, rfl, empty, noCollision, again, emptied rfl empty noCollision⟩

end ModelMigration.CommandLine
