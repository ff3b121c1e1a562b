import ModelMigration.Proofs.Cache.Keys
import ModelMigration.Proofs.CommandLine.Steps
import ModelMigration.Proofs.Compile.Endings
import ModelMigration.Proofs.Disk.Recording

/-!
# Reported migrations

What a command says of the migrations that it brings to their places. A command that does all that
is asked names each of them. One that fails names none, also if migrations were brought to their
places before it failed.
-/

namespace ModelMigration

open Disk

/-! ## Written migrations -/

/-- Whether a path ends with the extension of cache entries. -/
def endsLikeEntry (path : Path) : Bool :=
  Settings.standard.cacheExtension.toList.isSuffixOf path.text.toList

/-- The paths of a record that are not of cache entries. -/
def migrationsIn (record : List Path) : List Path := record.filter fun path => !endsLikeEntry path

theorem migrationsIn_append (record later : List Path) :
    migrationsIn (record ++ later) = migrationsIn record ++ migrationsIn later :=
  List.filter_append ..

theorem isSuffix_text_join (p q : Path) : q.text.toList <:+ (p.join q).text.toList := by
  unfold Path.join
  split
  · exact List.suffix_refl _
  · split
    · rw [String.toList_append]
      exact List.suffix_append _ _
    · rw [String.toList_append]
      exact List.suffix_append _ _

theorem migrationsIn_entryPath {hash : String} {key : CacheKey}
    (h : CacheKey.ofHash hash Settings.standard.cacheExtension = .ok key) (root : Path) :
    migrationsIn [entryPath root key] = [] := by
  have ending : endsLikeEntry (entryPath root key) = true := by
    refine List.isSuffixOf_iff_suffix.mpr (List.IsSuffix.trans ?_ (isSuffix_text_join root _))
    rw [CacheKey.text_of_ofHash h, String.toList_append, String.toList_append, ← List.append_assoc]
    exact List.suffix_append _ _
  rw [migrationsIn, List.filter_cons_of_neg (by rw [ending]; decide), List.filter_nil]

theorem migrationsIn_destination (base : Path) (name : String) (config : Config) (t : Timestamp) :
    migrationsIn [Compiler.destination (.ofProject base) name config t] =
      [Compiler.destination (.ofProject base) name config t] := by
  have source : Settings.standard.sourceExtension.toList <:+
      (Compiler.destination (.ofProject base) name config t).text.toList := by
    refine List.IsSuffix.trans ?_ (isSuffix_text_join _ _)
    rw [migrationFileName, String.toList_append]
    exact List.suffix_append _ _
  have ending : endsLikeEntry (Compiler.destination (.ofProject base) name config t) = false := by
    rw [endsLikeEntry, Bool.eq_false_iff]
    intro entry
    -- Two ends of one length would have to be the same.
    have same := List.suffix_of_suffix_length_le (List.isSuffixOf_iff_suffix.mp entry) source
      (by decide)
    exact absurd same (by decide)
  rw [migrationsIn, List.filter_cons_of_pos (by rw [ending]; decide), List.filter_nil]

/-! ## One migration -/

section

variable {σ : Type} (disk : Access (StateM σ)) (base : Path)

/-- The path of the migration that an outcome brought to its place. -/
def broughtBy : Outcome → List Path
  | .compiled a => [a.path]
  | _ => []

/-- Whether the one migration among some paths is that which was brought to its place. -/
def OnlyBrought (result : Except Error Artifact) (more : List Path) : Prop :=
  migrationsIn more = broughtBy (Compiler.outcome result)

theorem records_deliver (key : CacheKey) {path : Path} (own : migrationsIn [path] = [path])
    (fromCache : Bool) (t : Timestamp) :
    Records OnlyBrought
      (Compiler.deliver (stores disk.recording (.ofProject base)) key path fromCache t)
      (Compiler.deliver (stores disk (.ofProject base)) key path fromCache t) := by
  refine (quiet_cache_read disk _ key).bind fun text => ?_
  cases text with
  | error error => exact .pure rfl
  | ok content =>
      refine (records_output_put disk path content).bind fun put more added => ?_
      cases put with
      | error error =>
          cases added
          exact .pure rfl
      | ok =>
          cases added
          exact .pure own

theorem records_buildAndDeliver (r : Request) {key : CacheKey}
    (h : CacheKey.ofHash r.hash Settings.standard.cacheExtension = .ok key) {path : Path}
    (own : migrationsIn [path] = [path]) (t : Timestamp) :
    Records OnlyBrought
      (Compiler.buildAndDeliver (.ofProject base) (stores disk.recording (.ofProject base)) r key
        path t)
      (Compiler.buildAndDeliver (.ofProject base) (stores disk (.ofProject base)) r key path t) := by
  unfold Compiler.buildAndDeliver
  cases Compiler.build (.ofProject base) r with
  | error error => exact .pure rfl
  | ok text =>
      refine (records_cache_write disk _ key text).bind fun kept more added => ?_
      cases kept with
      | error error =>
          cases added
          exact .pure rfl
      | ok =>
          cases added
          have later := records_deliver disk base key own false t
          simp only [OnlyBrought, migrationsIn_append, migrationsIn_entryPath h, List.nil_append]
          exact later

theorem records_compileAt (r : Request) (t : Timestamp) :
    Records (fun ended more => OnlyBrought ended.1 more)
      (Compiler.compileAt (.ofProject base) (stores disk.recording (.ofProject base)) r t)
      (Compiler.compileAt (.ofProject base) (stores disk (.ofProject base)) r t) := by
  have own := migrationsIn_destination base r.name r.config t
  unfold Compiler.compileAt
  cases hash : CacheKey.ofHash r.hash (Settings.ofProject base).cacheExtension with
  | error error => exact .pure rfl
  | ok key =>
      refine (quiet_cache_contains disk _ key).bind fun there => ?_
      cases there with
      | true =>
          refine (records_deliver disk base key own true t).bind fun result more brought => ?_
          exact .pure (by rwa [List.append_nil])
      | false =>
          refine (records_buildAndDeliver disk base r hash own t).bind
            fun result more brought => ?_
          exact .pure (by rwa [List.append_nil])

theorem records_compile (clock : Clock) (r : Request) :
    Records (fun completion more => migrationsIn more = broughtBy completion.outcome)
      (Compiler.compile (.ofProject base) (stores disk.recording (.ofProject base)) clock r)
      (Compiler.compile (.ofProject base) (stores disk (.ofProject base)) clock r) := by
  unfold Compiler.compile
  cases r.config.validate with
  | error error => exact .pure rfl
  | ok =>
      cases clock.advance? with
      | none => exact .pure rfl
      | some later =>
          refine (records_compileAt disk base r later.current).bind fun ended more brought => ?_
          obtain ⟨error | a, calls⟩ := ended
          · exact .pure (by rwa [List.append_nil])
          · exact .pure (by rwa [List.append_nil])

/-! ## Commands -/

namespace CommandLine

variable {base} {job : Job}

/-- Whether the migrations among some paths are all those of the models, or those of the models in
front of the one at which compiling them fails. -/
def Accounts (job : Job) (clock : Clock) (paths : List Path) (x : σ)
    (result : Except Failure (List Artifact)) (more : List Path) : Prop :=
  ∃ n artifacts, (taken (compileEach disk job clock (paths.take n)) x).1 = .ok artifacts ∧
    migrationsIn more = artifacts.map Artifact.path ∧
    match result with
    | .ok all => all = artifacts
    | .error _ => n < paths.length

variable {disk} {clock later : Clock} {path : Path} {paths : List Path} {x z : σ}
  {more others : List Path}

theorem accounts_of_failure {failure : Failure} (none : migrationsIn more = []) :
    Accounts disk job clock (path :: paths) x (.error failure) more :=
  ⟨0, [], rfl, none, Nat.succ_pos _⟩

theorem Accounts.cons {r : Request} {a : Artifact} {result : Except Failure (List Artifact)}
    (first : Compiles disk job clock path x r a later z) (brought : migrationsIn more = [a.path])
    (rest : Accounts disk job later paths z result others) :
    Accounts disk job clock (path :: paths) x (result.map (a :: ·)) (more ++ others) := by
  obtain ⟨n, artifacts, front, same, whole⟩ := rest
  refine ⟨n + 1, a :: artifacts, ?_, ?_, ?_⟩
  · rw [List.take_succ_cons, first.taken_compileEach, front]
    rfl
  · rw [migrationsIn_append, brought, same]
    rfl
  · cases result with
    | ok all => exact congrArg (a :: ·) whole
    | error failure => exact Nat.succ_lt_succ whole

variable (disk) in
/-- A run goes on the recording disk as on the disk itself, and the migrations that it brings to
their places are recorded. -/
theorem compileEach_records (settings : job.settings = .ofProject base) (clock : Clock)
    (paths : List Path) (x : σ) (before : List Path) :
    ∃ more, Accounts disk job clock paths x (taken (compileEach disk job clock paths) x).1 more ∧
      taken (compileEach disk.recording job clock paths) (x, before) =
        ((taken (compileEach disk job clock paths) x).1,
          ((taken (compileEach disk job clock paths) x).2, before ++ more)) := by
  induction paths generalizing clock x before with
  | nil => exact ⟨[], ⟨0, [], rfl, rfl, rfl⟩, by simp [compileEach]⟩
  | cons path paths ih =>
      obtain ⟨_, rfl, load⟩ := quiet_loadModel disk path x before
      rw [List.append_nil] at load
      rcases loaded : taken (loadModel disk path) x with ⟨error | model, y⟩
      · exact ⟨[], by simpa [compileEach, loaded] using accounts_of_failure rfl,
          by simp [compileEach, load, loaded]⟩
      · rw [loaded] at load
        cases asked : job.request path model with
        | error failure =>
            exact ⟨[], by simpa [compileEach, loaded, asked] using accounts_of_failure rfl,
              by simp [compileEach, load, loaded, asked]⟩
        | ok r =>
            obtain ⟨more, brought, step⟩ := records_compile disk base clock r y before
            rw [← settings] at brought step
            rcases ended : taken (Compiler.compile job.settings (stores disk job.settings) clock r)
              y with ⟨⟨later, a | error | _, calls⟩, z⟩
            all_goals rw [ended] at brought step
            -- Only a compiled model is followed by others; otherwise the record ends here.
            · have first : Compiles disk job clock path x r a later z :=
                ⟨model, y, loaded, asked, calls, ended⟩
              have recorded : Compiles disk.recording job clock path (x, before) r a later
                  (z, before ++ more) := ⟨model, _, load, asked, calls, step⟩
              obtain ⟨others, accounts, rest⟩ := ih later z (before ++ more)
              refine ⟨more ++ others, ?_, ?_⟩
              · rw [first.taken_compileEach]
                exact accounts.cons first brought
              · rw [recorded.taken_compileEach, first.taken_compileEach, rest, List.append_assoc]
            · exact ⟨more, by simpa [compileEach, loaded, asked, ended] using
                accounts_of_failure brought, by simp [compileEach, load, loaded, asked, ended, step]⟩
            · exact ⟨more, by simpa [compileEach, loaded, asked, ended] using
                accounts_of_failure brought, by simp [compileEach, load, loaded, asked, ended, step]⟩

/-- The paths of the models matter to a run only where they are gone through. -/
theorem compileEach_withModels (arguments : CompileArguments) (s : Settings) (config : Config)
    (stub : Stub) (models : List Path) (clock : Clock) (paths : List Path) :
    compileEach disk ({ arguments with models := models }.jobWith s config stub) clock paths =
      compileEach disk (arguments.jobWith s config stub) clock paths := by
  induction paths generalizing clock with
  | nil => rfl
  | cons path paths ih =>
      simp only [compileEach, ih]
      rfl

theorem Prepares.take {now : Timestamp} {arguments : CompileArguments} {config : Config}
    {stub : Stub} (prepared : Prepares disk (.ofProject base) now arguments x config stub clock z)
    (n : Nat) :
    Prepares disk (.ofProject base) now { arguments with models := arguments.models.take n } x
      config stub clock z := by
  refine ⟨?_, prepared.exists_state, prepared.starts⟩
  have agree := prepared.agree
  simp only [CompileArguments.Agree, Bool.and_eq_false_iff, decide_eq_false_iff_not] at agree ⊢
  refine agree.imp_left fun few many => few ?_
  exact Nat.lt_of_lt_of_le many (by rw [List.length_take]; omega)

variable (disk) in
theorem quiet_stubOf (arguments : CompileArguments) :
    Quiet (stubOf disk.recording arguments) (stubOf disk arguments) := by
  unfold stubOf
  cases arguments.stub? with
  | some path => exact quiet_loadStub disk path
  | none => exact .pure rfl

theorem Prepares.recording {now : Timestamp} {arguments : CompileArguments} {config : Config}
    {stub : Stub} (prepared : Prepares disk (.ofProject base) now arguments x config stub clock z)
    (before : List Path) :
    Prepares disk.recording (.ofProject base) now arguments (x, before) config stub clock
      (z, before) := by
  obtain ⟨agree, ⟨y, loaded, read⟩, starts⟩ := prepared
  obtain ⟨_, rfl, load⟩ := quiet_loadConfig disk arguments.config x before
  obtain ⟨_, rfl, readStub⟩ := quiet_stubOf disk arguments y before
  rw [loaded, List.append_nil] at load
  rw [read, List.append_nil] at readStub
  exact ⟨agree, ⟨(y, before), load, readStub⟩, starts⟩

/-- Whether the migrations among some paths are those that a command tells of, or, if it fails,
those that the same command would tell of for some of its models, in front of another one. -/
def Tells (disk : Access (StateM σ)) (base : Path) (now : Timestamp) (arguments : CompileArguments)
    (x : σ) (result : Except Failure (List Artifact)) (more : List Path) : Prop :=
  match result with
  | .ok artifacts => migrationsIn more = artifacts.map Artifact.path
  | .error _ => migrationsIn more = [] ∨ ∃ n artifacts, n < arguments.models.length ∧
      (taken (compile disk (.ofProject base) now
        { arguments with models := arguments.models.take n }) x).1 = .ok artifacts ∧
      migrationsIn more = artifacts.map Artifact.path

variable (disk) (base) in
theorem compile_records (now : Timestamp) (arguments : CompileArguments) (x : σ)
    (before : List Path) :
    ∃ more, Tells disk base now arguments x
        (taken (compile disk (.ofProject base) now arguments) x).1 more ∧
      taken (compile disk.recording (.ofProject base) now arguments) (x, before) =
        ((taken (compile disk (.ofProject base) now arguments) x).1,
          ((taken (compile disk (.ofProject base) now arguments) x).2, before ++ more)) := by
  by_cases comes : ∃ config stub clock z,
      Prepares disk (.ofProject base) now arguments x config stub clock z
  · obtain ⟨config, stub, clock, z, prepared⟩ := comes
    let job := arguments.jobWith (.ofProject base) config stub
    have settings : job.settings = .ofProject base := rfl
    obtain ⟨more, ⟨n, artifacts, front, same, whole⟩, run⟩ :=
      compileEach_records disk settings clock arguments.models z before
    refine ⟨more, ?_, ?_⟩
    · rw [prepared.taken_compile]
      unfold Tells
      split
      · next all succeeded =>
          rw [succeeded] at whole
          rw [same, whole]
      · next failure failed =>
          rw [failed] at whole
          refine .inr ⟨n, artifacts, whole, ?_, same⟩
          rw [(prepared.take n).taken_compile, compileEach_withModels]
          exact front
    · rw [(prepared.recording before).taken_compile, prepared.taken_compile, run]
  · -- The command fails before the first model, and nothing but documents is read.
    by_cases agree : arguments.Agree
    · obtain ⟨_, rfl, load⟩ := quiet_loadConfig disk arguments.config x before
      have agree' := agree
      unfold CompileArguments.Agree at agree'
      rcases loaded : taken (loadConfig disk arguments.config) x with ⟨error | config, y⟩
      · rw [loaded] at load
        exact ⟨[], by simp [compile, agree', loaded, Tells, migrationsIn],
          by simp [compile, agree', loaded, load]⟩
      · obtain ⟨_, rfl, readStub⟩ := quiet_stubOf disk arguments y before
        rw [loaded, List.append_nil] at load
        rcases read : taken (stubOf disk arguments) y with ⟨error | stub, z⟩
        · rw [read] at readStub
          exact ⟨[], by simp [compile, agree', loaded, read, Tells, migrationsIn],
            by simp [compile, agree', loaded, load, read, readStub]⟩
        · rw [read] at readStub
          cases starts : (Clock.startingAt now).withStep? (Settings.ofProject base).stepSeconds with
          | some clock => exact absurd ⟨config, stub, clock, z, agree, ⟨y, loaded, read⟩, starts⟩ comes
          | none =>
              exact ⟨[], by simp [compile, agree', loaded, read, starts, Tells, migrationsIn],
                by simp [compile, agree', loaded, load, read, readStub, starts]⟩
    · rw [CompileArguments.Agree, Bool.not_eq_false] at agree
      exact ⟨[], by simp [compile, agree, Tells, migrationsIn], by simp [compile, agree]⟩

/--
What a command says of the migrations that it writes. It goes on a recording disk as on the disk
itself. If it succeeds, its lines name the recorded migrations. If it fails, it names none; those
recorded are the ones that the same command would name for some of its models, in front of the one
at which it fails.
-/
theorem run_tells_unless_failed (disk : Access (StateM σ)) (here base : Path) (now : Timestamp)
    (arguments : CompileArguments) (x : σ) :
    let command (models : List Path) : Invocation :=
      ⟨base, .compile { arguments with models := models }⟩
    let ended := taken (run disk.recording here now (command arguments.models)) (x, [])
    (ended.1, ended.2.1) = taken (run disk here now (command arguments.models)) x ∧
      match ended.1 with
      | .ok lines => ∃ artifacts : List Artifact, lines = artifacts.map artifactLine ∧
          migrationsIn ended.2.2 = artifacts.map Artifact.path
      | .error _ => migrationsIn ended.2.2 = [] ∨ ∃ n, ∃ artifacts : List Artifact,
          n < arguments.models.length ∧
          (taken (run disk here now (command (arguments.models.take n))) x).1 =
            .ok (artifacts.map artifactLine) ∧
          migrationsIn ended.2.2 = artifacts.map Artifact.path := by
  intro command ended
  let s := Settings.ofProject (base.absolute here)
  obtain ⟨more, tells, recorded⟩ :=
    compile_records disk (base.absolute here) now arguments x []
  rw [List.nil_append] at recorded
  have plain (models : List Path) : taken (run disk here now (command models)) x =
      ((taken (compile disk s now { arguments with models := models }) x).1.map
        fun artifacts => artifacts.map artifactLine,
        (taken (compile disk s now { arguments with models := models }) x).2) := rfl
  have ends : ended = ((taken (compile disk s now arguments) x).1.map
        fun artifacts => artifacts.map artifactLine,
      ((taken (compile disk s now arguments) x).2, more)) := by
    show ((taken (compile disk.recording s now arguments) (x, [])).1.map _,
      (taken (compile disk.recording s now arguments) (x, [])).2) = _
    rw [recorded]
  rw [ends]
  refine ⟨rfl, ?_⟩
  cases result : (taken (compile disk s now arguments) x).1 with
  | ok artifacts =>
      rw [result] at tells
      exact ⟨artifacts, rfl, tells⟩
  | error failure =>
      rw [result] at tells
      refine tells.imp_right ?_
      rintro ⟨n, artifacts, before, succeeds, written⟩
      refine ⟨n, artifacts, before, ?_, written⟩
      rw [plain, succeeds]
      rfl

end CommandLine

end

/-! ## A migration that is not told of -/

namespace CommandLine

/-- A project with a configuration, a template, a model and a file that holds no model. -/
def halfProject : FileTree :=
  let file (t : FileTree) (name text : String) := t.put ["w", name] (.file text.toUTF8)
  let documents := [("c.json", Config.toJson ⟨none, "m"⟩), ("s.stub", "new"),
    ("a.json", Model.toJson ⟨[]⟩), ("b.json", "")]
  documents.foldl (fun t (name, text) => file t name text) (FileTree.empty ["w"])

theorem run_half :
    let arguments : CompileArguments :=
      ⟨[⟨"a.json"⟩, ⟨"b.json"⟩], ⟨"c.json"⟩, none, some ⟨"s.stub"⟩, none, false⟩
    let ended := taken (run FileTree.access.recording ⟨"/w"⟩ ⟨0⟩ ⟨⟨"."⟩, .compile arguments⟩)
      (halfProject, [])
    (ended.1.toOption, migrationsIn ended.2.2) =
      (none, [⟨"/w/m/0000_01_01_000005_create_as_table.php"⟩]) := by
  decide +kernel

/-- The migration of the first model is written, and the command fails at the second without a word
of it. -/
theorem written_migration_untold :
    let arguments : CompileArguments :=
      ⟨[⟨"a.json"⟩, ⟨"b.json"⟩], ⟨"c.json"⟩, none, some ⟨"s.stub"⟩, none, false⟩
    let ended := taken (run FileTree.access.recording ⟨"/w"⟩ ⟨0⟩ ⟨⟨"."⟩, .compile arguments⟩)
      (halfProject, [])
    ended.1.toOption = none ∧
      migrationsIn ended.2.2 = [⟨"/w/m/0000_01_01_000005_create_as_table.php"⟩] := by
  simpa only [Prod.mk.injEq] using run_half

end CommandLine

end ModelMigration
