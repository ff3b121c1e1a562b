import ModelMigration.Proofs.Compile.InMemory
import ModelMigration.Proofs.Disk.FileNames
import ModelMigration.Proofs.Output.Files
import ModelMigration.Proofs.Session.Compiled

/-!
# The files of a session

A migration goes to a place that tells its timestamp, so no migration of a session goes to the place
of another, and an output that was empty holds them all at the end.
-/

namespace ModelMigration

/-! ## Places -/

/-- The place of a migration tells its timestamp, even if the directories differ. -/
theorem Compiler.timestamp_of_destination {s : Settings} {name name' : String}
    {config config' : Config} {t u : Timestamp} (slash : '/' ∉ name.toList)
    (slash' : '/' ∉ name'.toList) (extension : '/' ∉ s.sourceExtension.toList)
    (same : (destination s name config t).components = (destination s name' config' u).components) :
    t = u := by
  unfold destination at same
  rw [Path.components_join_part _ (partName_migration slash extension),
    Path.components_join_part _ (partName_migration slash' extension)] at same
  have last := congrArg List.getLast? same
  simp only [List.getLast?_concat, Option.some.injEq, Path.Component.name.injEq] at last
  exact timestamp_of_migrationFileName last

/-- The file of a migration. -/
def Artifact.file (a : Artifact) : Path × String := (a.path, a.content)

namespace Session

variable {s : Settings}

/-- A step puts its migration, if any, and nothing else to the output. -/
theorem step_output (clock : Clock) (first : Step) (m : Memory) :
    (taken (step s Memory.stores clock first) m).2.output =
      m.output.putAll
        ((compiled? (first, (taken (step s Memory.stores clock first) m).1.1)).toList.map
          (·.2.file)) := by
  cases first with
  | compile r =>
      simp only [step, taken_bind, taken_pure]
      rcases ended : taken (Compiler.compile s Memory.stores clock r) m with ⟨completion, m'⟩
      cases Memory.compile_ended ended with
      | hit config advance hash kept => simp [compiled?, Artifact.file]
      | miss config advance hash new built => simp [compiled?, Artifact.file]
      | _ => simp [compiled?]
  | _ => simp [step, compiled?]

theorem run_output (clock : Clock) (steps : List Step) (m : Memory) :
    (taken (run s Memory.stores clock steps) m).2.output =
      m.output.putAll ((compiled steps (taken (run s Memory.stores clock steps) m).1).map
        (·.2.file)) := by
  induction steps generalizing clock m with
  | nil => rfl
  | cons first steps ih =>
      cases behind : first.clockBehind? clock with
      | none =>
          rw [taken_run_cons_none s Memory.stores steps m behind, compiled_cons, compiled_nil_right,
            List.append_nil]
          exact step_output clock first m
      | some later =>
          rw [taken_run_cons s Memory.stores steps m behind, compiled_cons, List.map_append,
            OutputMap.putAll_append, ← step_output]
          exact ih later _

/-- No two migrations of a session go to one place. -/
theorem nodup_places {σ : Type} (stores : Stores (StateM σ)) {clock : Clock}
    (ticks : 0 < clock.step) {steps : List Step} (x : σ) (extension : '/' ∉ s.sourceExtension.toList)
    (names : ∀ r, .compile r ∈ steps → '/' ∉ r.name.toList) :
    (((compiled steps (taken (run s stores clock steps) x).1).map (·.2.file)).map
      (·.1.components)).Nodup := by
  rw [List.map_map, List.Nodup, List.pairwise_map]
  refine (run_increasing s stores ticks steps x).imp_of_mem ?_
  intro first second mem mem' before same
  obtain ⟨asked, place⟩ := run_places s stores clock steps x first mem
  obtain ⟨asked', place'⟩ := run_places s stores clock steps x second mem'
  simp only [Function.comp_apply, Artifact.file] at same
  rw [place, place'] at same
  rw [Compiler.timestamp_of_destination (names _ asked) (names _ asked') extension same] at before
  exact Int.lt_irrefl _ before

/--
At the end of a session the output holds one file for each migration, under the path that was
returned for it and with the text that was returned: no migration was put over another.
-/
theorem migrations_keep_apart (start : Timestamp) {clock : Clock}
    (set : (Clock.startingAt start).withStep? s.stepSeconds = some clock) (cache : CacheMap)
    {steps : List Step} (extension : '/' ∉ s.sourceExtension.toList)
    (names : ∀ r, .compile r ∈ steps → '/' ∉ r.name.toList) :
    let ended := taken (run s Memory.stores clock steps) ⟨cache, ∅⟩
    let files := (compiled steps ended.1).map (·.2.file)
    (files.map (·.1.components)).Nodup ∧ ended.2.output.files.Perm files ∧
      ∀ file ∈ files, ended.2.output.get? file.1 = some file.2 := by
  intro ended files
  have apart : (files.map (·.1.components)).Nodup :=
    nodup_places Memory.stores (Clock.step_pos_of_withStep? set) ⟨cache, ∅⟩ extension names
  have output : ended.2.output = OutputMap.putAll ∅ files := run_output clock steps ⟨cache, ∅⟩
  rw [output]
  refine ⟨apart, ?_, OutputMap.get?_putAll apart⟩
  have new : ∀ file ∈ files, OutputMap.get? ∅ file.1 = none := fun file _ => by
    simp [OutputMap.get?]
  have none : OutputMap.files ∅ = [] := rfl
  have held := OutputMap.files_putAll_perm apart new
  rwa [none, List.append_nil] at held

/-- Three migrations in one directory, around the start of the year zero, for models that differ in
case at most; the third is served the text of the first. -/
theorem migrations_keep_apart_around_year_zero :
    let s : Settings := { Settings.standard with stepSeconds := -3 }
    let start := Timestamp.ofParts ⟨-1, 12, 31⟩ 23 59 58
    let steps : List Step := [.compile (namedRequest "Tag" "out" []),
      .compile (namedRequest "tag" "out/." []), .compile (namedRequest "Tag" "out" [])]
    let ended := taken (run s Memory.stores ⟨start, 1⟩ steps) ⟨∅, ∅⟩
    let files := (compiled steps ended.1).map (·.2.file)
    (Clock.startingAt start).withStep? s.stepSeconds = some ⟨start, 1⟩ ∧
      '/' ∉ s.sourceExtension.toList ∧ (∀ r, .compile r ∈ steps → '/' ∉ r.name.toList) ∧
      files = [(⟨"./out/-0001_12_31_235959_create_tags_table.php"⟩, "class Tag"),
        (⟨"./out/./0000_01_01_000000_create_tags_table.php"⟩, "class tag"),
        (⟨"./out/0000_01_01_000001_create_tags_table.php"⟩, "class Tag")] ∧
      (files.map (·.1.components)).Nodup ∧ ended.2.output.files.Perm files ∧
      ∀ file ∈ files, ended.2.output.get? file.1 = some file.2 := by
  intro s start steps ended files
  have set : (Clock.startingAt start).withStep? s.stepSeconds = some ⟨start, 1⟩ := by decide +kernel
  have extension : '/' ∉ s.sourceExtension.toList := by decide
  have names : ∀ r, .compile r ∈ steps → '/' ∉ r.name.toList := by
    intro r mem
    simp only [steps, List.mem_cons, Step.compile.injEq, List.not_mem_nil, or_false] at mem
    rcases mem with rfl | rfl | rfl <;> decide
  exact ⟨set, extension, names, by decide +kernel,
    migrations_keep_apart start set ∅ extension names⟩

end Session

end ModelMigration
