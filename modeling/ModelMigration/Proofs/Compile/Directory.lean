import ModelMigration.Proofs.Compile.InTree
import ModelMigration.Proofs.Path.Templates

/-!
# The directories of migrations

Where a migration goes is joined to its directory as a path, so a slash in the name of the model
divides the file name. A migration stands directly in its directory exactly if the name has none.
-/

namespace ModelMigration

open Disk Disk.FileTree ModelMigration.Path

/-! ## Divided names -/

namespace Path

variable {p : Path}

theorem route_of_append_slash {cs ds : List Char} (text : p.text.toList = cs ++ '/' :: ds) :
    p.route = route ⟨String.ofList cs⟩ ++ route ⟨String.ofList ds⟩ := by
  simp only [route_eq, segments_eq, text, segmentsOf_append_slash, List.filter_append,
    String.toList_ofList]

theorem route_ne_nil_of_mem {c : Char} (noSlash : c ≠ '/') (noDot : c ≠ '.')
    (mem : c ∈ p.text.toList) : p.route ≠ [] := by
  intro none
  have count := count_route noSlash noDot p
  rw [none] at count
  exact List.count_eq_zero.mp count.symm mem

end Path

section Names

variable {model : String}

theorem slash_mem_lowered (slash : '/' ∈ model.toList) : '/' ∈ (Text.lowered model).toList := by
  rw [Text.lowered, String.toList_ofList]
  exact Text.mem_lowerAfter_of_fixed (by decide) (by decide +kernel) [] slash

theorem isAbsolute_migration (t : Timestamp) (model ext : String) :
    isAbsolute ⟨migrationFileName t model ext⟩ = false := by
  have text : migrationFileName t model ext =
      t.stamp ++ ("_create_" ++ Text.lowered model ++ "s_table" ++ ext) := by
    simp only [migrationFileName, String.append_assoc]
  have filled : t.stamp ≠ "" := by
    intro empty
    have none := congrArg String.toList empty
    exact stamp_ne_empty t none
  have same : isAbsolute ⟨migrationFileName t model ext⟩ = isAbsolute ⟨t.stamp⟩ :=
    isAbsolute_of_text text filled
  rw [same, isAbsolute, decide_eq_false_iff_not]
  intro first
  exact absurd (stampText_stamp t '/' (List.mem_of_mem_head? first)) (by decide)

/-- A slash in the name of a model divides the file name of its migration into parts that lead
through something each. -/
theorem two_le_length_route_migration (slash : '/' ∈ model.toList) (t : Timestamp) (ext : String) :
    2 ≤ (route ⟨migrationFileName t model ext⟩).length := by
  obtain ⟨front, back, lower⟩ := List.append_of_mem (slash_mem_lowered slash)
  have text : (migrationFileName t model ext).toList =
      (t.stamp.toList ++ "_create_".toList ++ front) ++
        '/' :: (back ++ "s_table".toList ++ ext.toList) := by
    simp only [migrationFileName, String.toList_append, lower, List.append_assoc, List.cons_append]
  have before : route ⟨String.ofList (t.stamp.toList ++ "_create_".toList ++ front)⟩ ≠ [] :=
    route_ne_nil_of_mem (c := '_') (by decide) (by decide) (by simp)
  have behind : route ⟨String.ofList (back ++ "s_table".toList ++ ext.toList)⟩ ≠ [] :=
    route_ne_nil_of_mem (c := '_') (by decide) (by decide) (by simp)
  have route : route ⟨migrationFileName t model ext⟩ = _ := route_of_append_slash text
  have := List.length_pos_of_ne_nil before
  have := List.length_pos_of_ne_nil behind
  rw [route, List.length_append]
  omega

end Names

namespace Compiler

variable {s : Settings} {r : Request} {clock later : Clock} {t u : FileTree} {a : Artifact}
  {calls : Nat}

theorem exists_parent_destination_iff (plain : '/' ∉ s.sourceExtension.toList) (name : String)
    (config : Config) (time : Timestamp) :
    ∃ parent, (destination s name config time).parent? = some parent ∧
      (parent.components = (s.resolve config.migrations).components ↔ '/' ∉ name.toList) := by
  by_cases slash : '/' ∈ name.toList
  · have long := two_le_length_route_migration slash time s.sourceExtension
    have along : (destination s name config time).route = (s.resolve config.migrations).route ++
        route ⟨migrationFileName time name s.sourceExtension⟩ :=
      route_join _ (isAbsolute_migration _ _ _)
    have routed : (destination s name config time).route ≠ [] := by
      intro none
      rw [along, List.append_eq_nil_iff] at none
      rw [none.2] at long
      contradiction
    cases above : (destination s name config time).parent? with
    | none => exact absurd (route_eq_nil_of_parent? above) routed
    | some parent =>
        refine ⟨parent, rfl, fun same => ?_, fun free => absurd slash free⟩
        -- The parent leads one part less far, so more than one part cannot be the file alone.
        obtain ⟨last, longer⟩ := exists_route_parent? above routed
        have length := congrArg List.length longer
        rw [along, show parent.route = _ from congrArg (List.filterMap Component.part?) same,
          List.length_append, List.length_append, List.length_singleton] at length
        change _ = (s.resolve config.migrations).route.length + 1 at length
        omega
  · obtain ⟨parent, above, same⟩ := exists_parent?_join_part (s.resolve config.migrations)
      (partName_migration (t := time) slash plain)
    exact ⟨parent, above, fun _ => slash, fun _ => same⟩

/-- How a tree changes in front of the output of a request: by its entry at most. -/
def EntryWritten (s : Settings) (r : Request) (t v : FileTree) : Prop :=
  v = t ∨ ∃ key text, CacheKey.ofHash r.hash s.cacheExtension = .ok key ∧
    taken ((stores access s).cache.write key text) t = (.ok (), v)

theorem exists_put_of_endedAt {time : Timestamp}
    (h : EndedAt s (stores access s) r time t (.ok a, calls) u) :
    ∃ v, EntryWritten s r t v ∧ taken ((stores access s).output.put
      (destination s r.name r.config time) a.content) v = (.ok (), u) := by
  cases h with
  | hit hash found delivered =>
      obtain ⟨content, _, read, put, rfl⟩ := exists_read_of_delivered delivered
      obtain ⟨rfl, _⟩ := cache_read_blameless read
      rw [cache_contains, Prod.mk.injEq] at found
      exact ⟨_, .inl found.2.symm, put⟩
  | miss hash found built written delivered =>
      obtain ⟨content, _, read, put, rfl⟩ := exists_read_of_delivered delivered
      obtain ⟨rfl, _⟩ := cache_read_blameless read
      rw [cache_contains, Prod.mk.injEq] at found
      rw [← found.2] at written
      exact ⟨_, .inr ⟨_, _, hash, written⟩, put⟩

theorem endedAt_of_compile {completion : Completion} (compiled : completion.outcome = .compiled a)
    (h : taken (compile s (stores access s) clock r) t = (completion, u)) :
    ∃ time calls, EndedAt s (stores access s) r time t (.ok a, calls) u :=
  ⟨_, _, (endedAt_of_compiled compiled h).2.2⟩

/-- A migration goes directly to the directory of its configuration exactly if the name of the model
has no slash. A request that is compiled then writes its file there and no other behind its
entry. -/
theorem migration_in_directory_iff (plain : '/' ∉ s.sourceExtension.toList) (r : Request) :
    (∀ time, ∃ parent, (destination s r.name r.config time).parent? = some parent ∧
      (parent.components = (outputDirectory s r).components ↔ '/' ∉ r.name.toList)) ∧
    ∀ (clock : Clock) (t u : FileTree) (completion : Completion) (a : Artifact),
      taken (compile s (stores access s) clock r) t = (completion, u) →
      completion.outcome = .compiled a →
      a.path = destination s r.name r.config a.timestamp ∧ ('/' ∉ r.name.toList →
        ∃ v placed, EntryWritten s r t v ∧
          Filed v u (outputDirectory s r) placed (outputName s r a.timestamp)
            a.content.toUTF8) := by
  refine ⟨fun time => exists_parent_destination_iff plain r.name r.config time, ?_⟩
  intro clock t u completion a run compiled
  obtain ⟨time, calls, ended⟩ := endedAt_of_compile compiled run
  obtain ⟨path, rfl⟩ := placed_of_endedAt ended
  refine ⟨path, fun noSlash => ?_⟩
  obtain ⟨v, entry, put⟩ := exists_put_of_endedAt ended
  obtain ⟨placed, filed⟩ := filed_of_output_put (partName_migration noSlash plain) put
  exact ⟨v, placed, entry, filed⟩

/-- A request for a migration in `m`, of a model with a name. -/
def namedRequest (name : String) : Request where
  stub := ⟨"stub", "new"⟩
  name := name
  model := ⟨[]⟩
  config := ⟨none, "m"⟩
  hash := "h"
  extensions := []

/-- A name that climbs stays in its file name where it has no slash. -/
theorem migration_in_directory_iff_dots :
    let r := namedRequest ".."
    let ended := taken (compile .standard (stores access .standard) (.startingAt ⟨0⟩) r)
      (FileTree.empty ["w"])
    '/' ∉ Settings.standard.sourceExtension.toList ∧ '/' ∉ r.name.toList ∧
      ended.1.outcome =
        .compiled ⟨⟨"./m/0000_01_01_000005_create_..s_table.php"⟩, "new", false, ⟨5⟩⟩ ∧
      ∃ v placed, EntryWritten .standard r (FileTree.empty ["w"]) v ∧
        Filed v ended.2 ⟨"./m"⟩ placed "0000_01_01_000005_create_..s_table.php" "new".toUTF8 := by
  intro r ended
  have plain : '/' ∉ Settings.standard.sourceExtension.toList := by decide
  have noSlash : '/' ∉ r.name.toList := by decide
  have outcome : ended.1.outcome =
      .compiled ⟨⟨"./m/0000_01_01_000005_create_..s_table.php"⟩, "new", false, ⟨5⟩⟩ := by
    decide +kernel
  have directory : outputDirectory .standard r = ⟨"./m"⟩ := by decide +kernel
  have name : outputName .standard r ⟨5⟩ = "0000_01_01_000005_create_..s_table.php" := by
    decide +kernel
  obtain ⟨_, inPlace⟩ := (migration_in_directory_iff plain r).2 (.startingAt ⟨0⟩)
    (FileTree.empty ["w"]) ended.2 ended.1 _ (Prod.eta ended).symm outcome
  rw [← directory, ← name]
  exact ⟨plain, noSlash, outcome, inPlace noSlash⟩

/-- A name with a slash takes the migration to another directory. -/
theorem migration_out_of_directory :
    let r := namedRequest "a/b"
    let ended := taken (compile .standard (stores access .standard) (.startingAt ⟨0⟩) r)
      (FileTree.empty ["w"])
    let parent : Path := ⟨"./m/0000_01_01_000005_create_a"⟩
    '/' ∉ Settings.standard.sourceExtension.toList ∧ r.config.validate = .ok () ∧
      (destination .standard r.name r.config ⟨5⟩).parent? = some parent ∧
      parent.components ≠ (outputDirectory .standard r).components ∧
      (∃ a, ended.1.outcome = .compiled a) ∧
      ended.2.file? ["w", "m", "0000_01_01_000005_create_a", "bs_table.php"] =
        some "new".toUTF8 := by
  intro r ended parent
  have place : destination .standard r.name r.config ⟨5⟩ =
      ⟨"./m/0000_01_01_000005_create_a/bs_table.php"⟩ := by decide +kernel
  have directory : outputDirectory .standard r = ⟨"./m"⟩ := by decide +kernel
  have run : ended.1.outcome = .compiled ⟨⟨"./m/0000_01_01_000005_create_a/bs_table.php"⟩, "new",
      false, ⟨5⟩⟩ ∧ ended.2.file? ["w", "m", "0000_01_01_000005_create_a", "bs_table.php"] =
        some "new".toUTF8 := by
    decide +kernel
  rw [place, directory]
  exact ⟨by decide, by decide +kernel, by decide +kernel, by decide +kernel, ⟨_, run.1⟩, run.2⟩

end Compiler

end ModelMigration
