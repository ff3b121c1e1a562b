import ModelMigration.Proofs.CommandLine.Steps
import ModelMigration.Proofs.Compile.InTree
import ModelMigration.Proofs.Document.Loading
import ModelMigration.Proofs.Session.Compiled

/-!
# Runs in a file tree

What a run over some models leaves behind in a file tree. Entries that the cache has, migrations of
earlier times and files outside the two directories stay as they are, and at the end each model has
its entry and its migration, with the text that the run gave it.
-/

namespace ModelMigration

namespace CommandLine

open Disk Disk.FileTree Compiler ModelMigration.Path

variable {job : Job} {clock later : Clock} {path : Path} {paths : List Path} {t u x z : FileTree}
  {r : Request} {a : Artifact} {done : List (Request × Artifact)} {kept placed place : Location}

/-! ## Requests -/

/-- The name of the model in a file, for a command. -/
def CompileArguments.nameOf? (arguments : CompileArguments) (path : Path) : Option String :=
  arguments.name?.or (modelName? path)

theorem Job.request_eq_ok_iff {model : Model} :
    job.request path model = .ok r ↔ ∃ name, job.arguments.nameOf? path = some name ∧
      r = ⟨job.stub, name, model, job.config,
        job.arguments.hash?.getD (fingerprint name model job.config job.stub job.extensions),
        job.extensions⟩ := by
  unfold Job.request CompileArguments.nameOf?
  cases job.arguments.name? with
  | some name => simp [bind, Except.bind, pure, Except.pure, eq_comm]
  | none =>
      cases modelName? path with
      | some name => simp [bind, Except.bind, pure, Except.pure, eq_comm]
      | none => simp [bind, Except.bind]

/-- Whether a request is the one for the model in a file of a tree. -/
def Job.Asks (job : Job) (t : FileTree) (path : Path) (r : Request) : Prop :=
  ∃ model, (taken (loadModel access path) t).1 = .ok model ∧ job.request path model = .ok r

theorem Job.asks_iff : job.Asks t path r ↔ ∃ text model, t.readText path = .ok text ∧
    Model.load text = .ok model ∧ job.request path model = .ok r := by
  constructor
  · rintro ⟨model, loaded, asked⟩
    rcases load : taken (loadModel access path) t with ⟨result, v⟩
    rw [load] at loaded
    obtain rfl : result = .ok model := loaded
    obtain ⟨_, text, read, parsed⟩ := loadModel_eq_ok_iff.mp load
    exact ⟨text, model, read, parsed, asked⟩
  · rintro ⟨text, model, read, parsed, asked⟩
    exact ⟨model, by rw [loadModel_eq_ok_iff.mpr ⟨rfl, text, read, parsed⟩], asked⟩

/-- Whether no model that is asked for has a name with a slash. -/
def CompileArguments.PlainNames (arguments : CompileArguments) (paths : List Path) : Prop :=
  ∀ path ∈ paths, ∀ name, arguments.nameOf? path = some name → '/' ∉ name.toList

theorem brought_of_compiles (plain : job.settings.SlashFree)
    (names : ∀ name, job.arguments.nameOf? path = some name → '/' ∉ name.toList)
    (h : Compiles access job clock path x r a later z) :
    job.Asks x path r ∧ r.config.validate = .ok () ∧ clock.advance? = some later ∧
      Brought job.settings r later.current x a z := by
  obtain ⟨model, y, loaded, asked, calls, ended⟩ := h
  obtain ⟨rfl, text, read, parsed⟩ := loadModel_eq_ok_iff.mp loaded
  obtain ⟨name, named, same⟩ := Job.request_eq_ok_iff.mp asked
  have noSlash : '/' ∉ r.name.toList := by
    rw [same]
    exact names name named
  exact ⟨Job.asks_iff.mpr ⟨text, model, read, parsed, asked⟩, brought_of_compile plain noSlash ended⟩

/-- The directory of the migrations of a job. -/
def Job.outputDirectory (job : Job) : Path := job.settings.resolve job.config.migrations

theorem Job.Asks.outputDirectory_eq (asks : job.Asks t path r) :
    Compiler.outputDirectory job.settings r = job.outputDirectory := by
  obtain ⟨model, _, asked⟩ := asks
  obtain ⟨name, _, rfl⟩ := Job.request_eq_ok_iff.mp asked
  rfl

/-! ## What stays -/

/-- What a run leaves as it is on the way from a tree to another, given the directories of entries
and migrations and the clock in front of it. -/
structure Passed (s : Settings) (kept placed : Location) (clock : Clock) (t u : FileTree) :
    Prop where
  keeps : Keeps t u
  others : ∀ place, u.file? place = t.file? place ∨
    (u.file? place).isSome ∧ (kept <+: place ∨ placed <+: place)
  entries : ∀ key : CacheKey, CacheKey.start.toList.isPrefixOf key.text.toList = true →
    FitsIn s.cachePath key.text → t.LeadsTo s.cachePath kept →
    (t.file? (kept ++ [key.text])).isSome → u.file? (kept ++ [key.text]) = t.file? (kept ++ [key.text])
  migrations : ∀ (r : Request) (time : Timestamp), time.seconds ≤ clock.current.seconds →
    u.file? (placed ++ [outputName s r time]) = t.file? (placed ++ [outputName s r time])

variable {s : Settings} {time : Timestamp}

theorem Passed.refl (s : Settings) (kept placed : Location) (clock : Clock) (t : FileTree) :
    Passed s kept placed clock t t :=
  ⟨⟨rfl, fun _ stands => stands⟩, fun _ => .inl rfl, fun _ _ _ _ _ => rfl, fun _ _ _ => rfl⟩

theorem Passed.trans (first : Passed s kept placed clock t x)
    (next : Passed s kept placed later x u)
    (behind : clock.current.seconds ≤ later.current.seconds) : Passed s kept placed clock t u := by
  refine ⟨first.keeps.trans next.keeps, fun place => ?_, ?_, ?_⟩
  · rcases next.others place with same | changed
    · rw [same]
      exact first.others place
    · exact .inr changed
  · intro key entry fits leads there
    have same := first.entries key entry fits leads there
    rw [← same] at there ⊢
    exact next.entries key entry fits (first.keeps.leadsTo leads) there
  · intro r time early
    exact (next.migrations r time (Int.le_trans early behind)).trans (first.migrations r time early)

/-- A request at a time behind a clock leaves what a run has to leave. -/
theorem passed_of_brought (h : Brought s r time t a u)
    (roots : Roots s (Compiler.outputDirectory s r) kept placed u)
    (behind : clock.current.seconds < time.seconds) : Passed s kept placed clock t u := by
  have stands := h.stands roots
  refine ⟨h.keeps, fun place => ?_, ?_, ?_⟩
  · rcases h.others roots place with same | rfl | ⟨key, hash, rfl, _⟩
    · exact .inl same
    · have file := stands.file
      rw [h.timestamp] at file
      exact .inr ⟨by rw [file]; rfl, .inr (List.prefix_append _ _)⟩
    · obtain ⟨key', hash', _, file⟩ := stands.exists_entry
      obtain rfl : key = key' := Except.ok.inj (hash.symm.trans hash')
      exact .inr ⟨by rw [file]; rfl, .inl (List.prefix_append _ _)⟩
  · intro key entry fits leads there
    rcases h.others roots (kept ++ [key.text]) with same | same | ⟨key', _, same, new⟩
    · exact same
    · exact absurd same (entry_ne_output entry)
    · -- An entry that is there is found, so it is not written again.
      obtain ⟨_, names⟩ := List.append_inj' same (by simp)
      rw [entryPath, ← (List.cons.inj names).1, leads.hasFile fits, there] at new
      contradiction
  · intro r' early before
    rcases h.others roots (placed ++ [outputName s r' early]) with
      same | same | ⟨key, hash, same, _⟩
    · exact same
    · obtain ⟨_, names⟩ := List.append_inj' same (by simp)
      have times := timestamp_of_migrationFileName (List.cons.inj names).1
      rw [times] at before
      omega
    · exact absurd same.symm (entry_ne_output (CacheKey.start_isPrefixOf_of_ofHash hash))

theorem stands_of_passed (stands : Stands s kept placed r a t)
    (passed : Passed s kept placed clock t u) (leads : t.LeadsTo s.cachePath kept)
    (dated : a.timestamp.seconds ≤ clock.current.seconds) : Stands s kept placed r a u := by
  obtain ⟨path, ⟨key, hash, fits, entry⟩, name, file⟩ := stands
  have start := CacheKey.start_isPrefixOf_of_ofHash hash
  refine ⟨path, ⟨key, hash, fits, ?_⟩, name, ?_⟩
  · rw [passed.entries key start fits leads (by rw [entry]; rfl), entry]
  · rw [passed.migrations r a.timestamp dated, file]

/-- A document outside the two directories is read behind the run as in front of it. -/
theorem Passed.readText {p : Path} {text : String} (passed : Passed s kept placed clock t u)
    (outside : Outside u kept placed p) (read : t.readText p = .ok text) : u.readText p = .ok text := by
  obtain ⟨place, found⟩ := readText_eq_ok_iff.mp read
  have stands := stands_of_find found
  have there := file?_eq_some_iff.mpr stands
  rcases passed.others place with same | ⟨changed, within⟩
  · exact readText_eq_ok_iff.mpr ⟨place, passed.keeps.find found (same.trans there)⟩
  · -- What is read at the place now is in one of the directories, and no document is.
    obtain ⟨content, there'⟩ := Option.isSome_iff_exists.mp changed
    have out := outside place content (passed.keeps.find found there')
    exact absurd within (not_or.mpr out)

/-! ## Runs -/

section Run

variable (plain : job.settings.SlashFree) (names : job.arguments.PlainNames paths)
  (run : CompilesAll access job clock paths x done u)
include plain names run

theorem keeps_of_compilesAll : Keeps x u := by
  induction run with
  | nil => exact ⟨rfl, fun _ stands => stands⟩
  | cons first others ih =>
      obtain ⟨_, _, _, brought⟩ := brought_of_compiles plain (names _ List.mem_cons_self) first
      exact brought.keeps.trans (ih fun path mem => names path (List.mem_cons_of_mem _ mem))

theorem exists_roots_of_compilesAll (some : paths ≠ []) :
    ∃ kept placed, Roots job.settings job.outputDirectory kept placed u := by
  cases run with
  | nil => contradiction
  | cons first others =>
      obtain ⟨asks, _, _, brought⟩ := brought_of_compiles plain (names _ List.mem_cons_self) first
      obtain ⟨kept, placed, roots⟩ := brought.exists_roots
      rw [asks.outputDirectory_eq] at roots
      have keeps := keeps_of_compilesAll plain
        (fun path mem => names path (List.mem_cons_of_mem _ mem)) others
      exact ⟨kept, placed, roots.of_keeps keeps⟩

theorem roots_of_brought (asks : job.Asks t path r) (brought : Brought job.settings r time t a x)
    (roots : Roots job.settings job.outputDirectory kept placed u) :
    Roots job.settings (Compiler.outputDirectory job.settings r) kept placed x := by
  obtain ⟨kept', placed', there⟩ := brought.exists_roots
  have keeps := keeps_of_compilesAll plain names run
  rw [asks.outputDirectory_eq] at there ⊢
  obtain ⟨rfl, rfl⟩ := (there.of_keeps keeps).unique roots
  exact there

/-- Behind a run each migration stands with its entry, and what a run has to leave is left. -/
theorem passed_of_compilesAll (ticks : 0 < clock.step)
    (roots : Roots job.settings job.outputDirectory kept placed u) :
    Passed job.settings kept placed clock x u ∧
      ∀ item ∈ done, Stands job.settings kept placed item.1 item.2 u := by
  induction run with
  | nil => exact ⟨.refl _ _ _ _ _, by simp⟩
  | cons first others ih =>
      obtain ⟨asks, _, advance, brought⟩ :=
        brought_of_compiles plain (names _ List.mem_cons_self) first
      have names' := fun path mem => names path (List.mem_cons_of_mem _ mem)
      have roots' := roots_of_brought plain names' others asks brought roots
      obtain ⟨moved, step⟩ := Clock.advance?_eq_some advance
      obtain ⟨passed, stand⟩ := ih names' (by omega) roots
      refine ⟨(passed_of_brought brought roots' (by omega)).trans passed (by omega), ?_⟩
      intro item mem
      rcases List.mem_cons.mp mem with rfl | mem
      · -- The others are dated later, and leave the entry and the migration of the first alone.
        refine stands_of_passed (brought.stands roots') passed roots'.cache ?_
        exact Int.le_of_eq (congrArg Timestamp.seconds brought.timestamp)
      · exact stand item mem

/-- Each request is the one that is asked with what the tree behind the run holds. -/
theorem asks_of_compilesAll (ticks : 0 < clock.step)
    (roots : Roots job.settings job.outputDirectory kept placed u)
    (outside : ∀ path ∈ paths, Outside u kept placed path) :
    List.Forall₂ (fun path item => job.Asks u path item.1) paths done := by
  induction run with
  | nil => exact .nil
  | cons first others ih =>
      have passed := (passed_of_compilesAll plain names (.cons first others) ticks roots).1
      obtain ⟨asks, _, advance, _⟩ := brought_of_compiles plain (names _ List.mem_cons_self) first
      obtain ⟨text, model, read, parsed, asked⟩ := Job.asks_iff.mp asks
      have read' := passed.readText (outside _ List.mem_cons_self) read
      obtain ⟨_, step⟩ := Clock.advance?_eq_some advance
      refine .cons (Job.asks_iff.mpr ⟨text, model, read', parsed, asked⟩) ?_
      exact ih (fun path mem => names path (List.mem_cons_of_mem _ mem)) (by omega) roots
        fun path mem => outside path (List.mem_cons_of_mem _ mem)

theorem outputDirectory_of_compilesAll :
    ∀ item ∈ done, Compiler.outputDirectory job.settings item.1 = job.outputDirectory := by
  induction run with
  | nil => simp
  | cons first others ih =>
      obtain ⟨asks, _⟩ := brought_of_compiles plain (names _ List.mem_cons_self) first
      exact List.forall_mem_cons.mpr ⟨asks.outputDirectory_eq,
        ih fun path mem => names path (List.mem_cons_of_mem _ mem)⟩

/-- Behind a run each of its migrations can be read. -/
theorem readText_of_compilesAll (ticks : 0 < clock.step) :
    ∀ item ∈ done, u.readText item.2.path = .ok item.2.content := by
  intro item mem
  have some : paths ≠ [] := by
    rintro rfl
    cases run
    simp at mem
  obtain ⟨kept, placed, roots⟩ := exists_roots_of_compilesAll plain names run some
  have stands := (passed_of_compilesAll plain names run ticks roots).2 item mem
  rw [← outputDirectory_of_compilesAll plain names run item mem] at roots
  exact stands.readText roots

/-- Where equal hashes mean equal requests, all texts of a run are built if the entries in front of
it are. -/
theorem entriesBuilt_of_compilesAll {asked : Request → Prop}
    (roots : Roots job.settings job.outputDirectory kept placed u)
    (isAsked : ∀ item ∈ done, asked item.1)
    (same : ∀ r r', asked r → asked r' → r.hash = r'.hash → r = r')
    (entries : EntriesBuilt job.settings asked kept x) :
    (∀ item ∈ done, build job.settings item.1 = .ok item.2.content) ∧
      EntriesBuilt job.settings asked kept u := by
  induction run with
  | nil => exact ⟨by simp, entries⟩
  | cons first others ih =>
      obtain ⟨asks, _, _, brought⟩ := brought_of_compiles plain (names _ List.mem_cons_self) first
      have names' := fun path mem => names path (List.mem_cons_of_mem _ mem)
      have roots' := roots_of_brought plain names' others asks brought roots
      obtain ⟨built, entries'⟩ :=
        entriesBuilt_of_brought brought roots' (isAsked _ List.mem_cons_self) same entries
      obtain ⟨allBuilt, behind⟩ :=
        ih names' roots (fun item mem => isAsked item (List.mem_cons_of_mem _ mem)) entries'
      exact ⟨List.forall_mem_cons.mpr ⟨built, allBuilt⟩, behind⟩

end Run

end CommandLine

end ModelMigration
