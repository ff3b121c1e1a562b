import ModelMigration.CommandLine.Run
import ModelMigration.Proofs.StateSteps

/-!
# Compiling models one after another

A run over some models is a run over the first and then one over the others, from the state and with
the clock that the first leaves behind. It succeeds exactly if each model is compiled.
-/

namespace ModelMigration

/-- The settings of the commands for a project. -/
def Settings.ofProject (base : Path) : Settings := { Settings.standard with basePath := base }

namespace CommandLine

open Disk

variable {σ : Type} {disk : Access (StateM σ)} {job : Job}

/-- Whether the model in a file is compiled, from one clock and state to others. -/
structure Compiles (disk : Access (StateM σ)) (job : Job) (clock : Clock) (path : Path) (x : σ)
    (r : Request) (a : Artifact) (later : Clock) (z : σ) : Prop where
  exists_model : ∃ model y, taken (loadModel disk path) x = (.ok model, y) ∧
    job.request path model = .ok r ∧
    ∃ calls, taken (Compiler.compile job.settings (stores disk job.settings) clock r) y =
      (⟨later, .compiled a, calls⟩, z)

variable {clock later : Clock} {path : Path} {paths : List Path} {x z : σ} {r : Request}
  {a : Artifact}

/-- Behind a model that is compiled, the run goes on with the others. -/
theorem Compiles.taken_compileEach (first : Compiles disk job clock path x r a later z)
    (paths : List Path) :
    taken (compileEach disk job clock (path :: paths)) x =
      ((taken (compileEach disk job later paths) z).1.map (a :: ·),
        (taken (compileEach disk job later paths) z).2) := by
  obtain ⟨model, y, loaded, asked, calls, ended⟩ := first.exists_model
  simp only [compileEach, taken_bind, loaded, asked, ended]
  rcases taken (compileEach disk job later paths) z with ⟨failure | others, u⟩
  · rfl
  · rfl

/-- Whether all models in some files are compiled, for the given requests and to the given
migrations. -/
inductive CompilesAll (disk : Access (StateM σ)) (job : Job) :
    Clock → List Path → σ → List (Request × Artifact) → σ → Prop
  | nil {clock : Clock} {x : σ} : CompilesAll disk job clock [] x [] x
  | cons {clock later : Clock} {path : Path} {paths : List Path} {x z u : σ} {r : Request}
      {a : Artifact} {done : List (Request × Artifact)}
      (first : Compiles disk job clock path x r a later z)
      (others : CompilesAll disk job later paths z done u) :
      CompilesAll disk job clock (path :: paths) x ((r, a) :: done) u

theorem CompilesAll.taken_compileEach {u : σ} {done : List (Request × Artifact)}
    (run : CompilesAll disk job clock paths x done u) :
    taken (compileEach disk job clock paths) x = (.ok (done.map Prod.snd), u) := by
  induction run with
  | nil => rfl
  | cons first others ih =>
      rw [first.taken_compileEach, ih]
      rfl

/-- A run fails, or each of its models is compiled. -/
theorem compilesAll_of_compileEach {u : σ} {artifacts : List Artifact}
    (h : taken (compileEach disk job clock paths) x = (.ok artifacts, u)) :
    ∃ done, CompilesAll disk job clock paths x done u ∧ artifacts = done.map Prod.snd := by
  induction paths generalizing clock x artifacts with
  | nil =>
      cases h
      exact ⟨[], .nil, rfl⟩
  | cons path paths ih =>
      rcases loaded : taken (loadModel disk path) x with ⟨error | model, y⟩
      · simp [compileEach, loaded] at h
      · cases asked : job.request path model with
        | error failure => simp [compileEach, loaded, asked] at h
        | ok r =>
            rcases ended : taken (Compiler.compile job.settings (stores disk job.settings) clock r)
              y with ⟨⟨later, a | error | _, calls⟩, z⟩
            · have first : Compiles disk job clock path x r a later z :=
                ⟨model, y, loaded, asked, calls, ended⟩
              rw [first.taken_compileEach] at h
              rcases others : taken (compileEach disk job later paths) z with ⟨failure | rest, v⟩
              · rw [others] at h
                cases h
              · rw [others] at h
                cases h
                obtain ⟨done, run, rfl⟩ := ih others
                exact ⟨(r, a) :: done, .cons first run, rfl⟩
            · simp [compileEach, loaded, asked, ended] at h
            · simp [compileEach, loaded, asked, ended] at h

/-! ## Commands -/

/-- What the models of a command share, given its configuration and template. -/
def CompileArguments.jobWith (arguments : CompileArguments) (s : Settings) (config : Config)
    (stub : Stub) : Job :=
  ⟨s, arguments, config, stub, if arguments.softDeletes then [Extension.softDeletes] else []⟩

/-- Whether the options of a command go together: what is given for one model is given for one. -/
def CompileArguments.Agree (arguments : CompileArguments) : Prop :=
  (1 < arguments.models.length && (arguments.name?.isSome || arguments.hash?.isSome)) = false

/-- Whether a command comes to compile its models, with what they share and from a clock and a
state. -/
structure Prepares (disk : Access (StateM σ)) (s : Settings) (now : Timestamp)
    (arguments : CompileArguments) (x : σ) (config : Config) (stub : Stub) (clock : Clock) (z : σ) :
    Prop where
  agree : arguments.Agree
  exists_state : ∃ y, taken (loadConfig disk arguments.config) x = (.ok config, y) ∧
    taken (stubOf disk arguments) y = (.ok stub, z)
  starts : (Clock.startingAt now).withStep? s.stepSeconds = some clock

variable {s : Settings} {now : Timestamp} {arguments : CompileArguments} {config : Config}
  {stub : Stub}

theorem Prepares.taken_compile (prepared : Prepares disk s now arguments x config stub clock z) :
    taken (compile disk s now arguments) x =
      taken (compileEach disk (arguments.jobWith s config stub) clock arguments.models) z := by
  obtain ⟨agree, ⟨y, loaded, read⟩, starts⟩ := prepared
  unfold CompileArguments.Agree at agree
  simp only [compile, agree, Bool.false_eq_true, if_false, taken_bind, loaded, read, starts]
  rfl

/-- A command fails without a change of what there is to read, or comes to compile its models. -/
theorem prepares_of_compile {u : σ} {artifacts : List Artifact}
    (h : taken (compile disk s now arguments) x = (.ok artifacts, u)) :
    ∃ config stub clock z, Prepares disk s now arguments x config stub clock z := by
  unfold compile at h
  by_cases agree : arguments.Agree
  · have agree' := agree
    unfold CompileArguments.Agree at agree'
    simp only [agree', Bool.false_eq_true, if_false, taken_bind] at h
    rcases loaded : taken (loadConfig disk arguments.config) x with ⟨error | config, y⟩
    · simp [loaded] at h
    · rcases read : taken (stubOf disk arguments) y with ⟨error | stub, z⟩
      · simp [loaded, read] at h
      · cases starts : (Clock.startingAt now).withStep? s.stepSeconds with
        | none => simp [loaded, read, starts] at h
        | some clock => exact ⟨config, stub, clock, z, agree, ⟨y, loaded, read⟩, starts⟩
  · rw [CompileArguments.Agree, Bool.not_eq_false] at agree
    simp [agree] at h

end CommandLine

end ModelMigration
