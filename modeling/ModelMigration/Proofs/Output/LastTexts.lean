import Mathlib.Data.Finset.Card
import ModelMigration.Proofs.Output.Files
import ModelMigration.Proofs.Path.Order
import ModelMigration.Proofs.StateSteps

/-!
# Texts put one over another

An output in memory records what is put to it: it has one file for all the spellings of a path, with
the spelling that was put first and the text that was put last, and shows the files in the order of
their paths.
-/

namespace ModelMigration.OutputMap

variable {o : OutputMap} {puts : List (Path × String)} {components : List Path.Component}

/-- What was put under the paths of some components. -/
def putUnder (puts : List (Path × String)) (components : List Path.Component) :
    List (Path × String) :=
  puts.filter fun put => put.1.components = components

theorem components_of_mem_putUnder {put : Path × String} (mem : put ∈ putUnder puts components) :
    put.1.components = components := by
  simpa using (List.mem_filter.mp mem).2

theorem putUnder_concat (puts : List (Path × String)) (put : Path × String)
    (components : List Path.Component) : putUnder (puts ++ [put]) components =
      if put.1.components = components then putUnder puts components ++ [put]
      else putUnder puts components := by
  by_cases same : put.1.components = components <;> simp [putUnder, same]

/-- Whether an output holds the first spelling and the last text of what was put under each path. -/
structure Records (o : OutputMap) (puts : List (Path × String)) : Prop where
  first : ∀ components,
    o[components]?.map Prod.fst = (putUnder puts components).head?.map Prod.fst
  last : ∀ components,
    o[components]?.map Prod.snd = (putUnder puts components).getLast?.map Prod.snd

theorem records_empty : Records ∅ [] := by
  constructor <;> simp [putUnder]

/-- A text that is put is recorded. -/
theorem Records.put (records : Records o puts) (path : Path) (text : String) :
    Records (o.put path text) (puts ++ [(path, text)]) where
  first components := by
    rw [getElem?_put, putUnder_concat]
    split
    -- An earlier spelling stays, and where there is none this is the first.
    · rw [Option.map_some, records.first]
      cases putUnder puts components <;> rfl
    · exact records.first components
  last components := by
    rw [getElem?_put, putUnder_concat]
    split
    · rw [List.getLast?_concat]
      rfl
    · exact records.last components

theorem records_putAll (records : Records o puts) (later : List (Path × String)) :
    Records (o.putAll later) (puts ++ later) := by
  induction later generalizing o puts with
  | nil => simpa using records
  | cons put later ih => simpa using ih (records.put put.1 put.2)

/-! ## What a record shows -/

section

variable (records : Records o puts)

include records

theorem Records.components_of_getElem? {path : Path} {text : String}
    (held : o[components]? = some (path, text)) : path.components = components := by
  have spelled := records.first components
  rw [held] at spelled
  obtain ⟨first, isFirst, rfl⟩ := Option.map_eq_some_iff.mp spelled.symm
  exact components_of_mem_putUnder (List.mem_of_head? isFirst)

/-- The components of the paths, in the order in which they are shown, are the keys. -/
theorem Records.components_paths : o.paths.map Path.components = Std.ExtTreeMap.keys o := by
  rw [paths, files_eq, ← Std.ExtTreeMap.map_fst_toList_eq_keys, List.map_map, List.map_map]
  refine List.map_congr_left fun entry mem => ?_
  obtain ⟨key, path, text⟩ := entry
  exact records.components_of_getElem? (Std.ExtTreeMap.mem_toList_iff_getElem?_eq_some.mp mem)

theorem Records.paths_pairwise : o.paths.Pairwise Path.Before := by
  have ordered := Std.ExtTreeMap.ordered_keys (t := o)
  rw [← records.components_paths, List.pairwise_map] at ordered
  exact ordered.imp Path.compare_components_eq_lt_iff.mp

theorem Records.mem_paths_iff {path : Path} :
    path ∈ o.paths ↔ (putUnder puts path.components).head?.map Prod.fst = some path := by
  rw [← records.first]
  simp only [paths, files_eq, List.map_map, List.mem_map, Option.map_eq_some_iff,
    Std.ExtTreeMap.mem_toList_iff_getElem?_eq_some, Prod.exists, Function.comp_apply]
  constructor
  · rintro ⟨components, _, text, held, rfl⟩
    exact ⟨_, text, records.components_of_getElem? held ▸ held, rfl⟩
  · rintro ⟨_, text, held, rfl⟩
    exact ⟨_, _, text, held, rfl⟩

theorem Records.mem_keys_iff :
    components ∈ Std.ExtTreeMap.keys o ↔ components ∈ puts.map fun put => put.1.components := by
  have some : (∃ put ∈ puts, put.1.components = components) ↔ putUnder puts components ≠ [] := by
    simp [putUnder]
  rw [Std.ExtTreeMap.mem_keys, Std.ExtTreeMap.mem_iff_isSome_getElem?, ← Option.isSome_map,
    records.first, List.mem_map, some]
  cases putUnder puts components <;> simp

theorem Records.size_eq : o.size = (puts.map fun put => put.1.components).toFinset.card := by
  have nodup : (Std.ExtTreeMap.keys o).Nodup := Std.ExtTreeMap.nodup_keys
  have same : (Std.ExtTreeMap.keys o).toFinset =
      (puts.map fun put => put.1.components).toFinset := by
    ext components
    rw [List.mem_toFinset, List.mem_toFinset, records.mem_keys_iff]
  rw [← same, List.toFinset_card_of_nodup nodup, Std.ExtTreeMap.length_keys]

end

/-! ## Runs -/

theorem taken_mapM_put (o : OutputMap) (puts : List (Path × String)) :
    taken (puts.mapM fun put => output.put put.1 put.2) o =
      (puts.map fun _ => .ok (), o.putAll puts) := by
  induction puts generalizing o with
  | nil => rfl
  | cons put puts ih =>
      have first : taken (output.put put.1 put.2) o = (.ok (), o.put put.1 put.2) := rfl
      simp only [List.mapM_cons, taken_bind, taken_pure, first, ih, List.map_cons, putAll_cons]

/--
An output in memory takes every text that is put. Afterwards it gives for a path the text that was
put last under the same components, it has as many files as there are different components, and its
paths stand in the order of their components, each in the spelling that was put first. Paths have
the same components if neither comes before the other, that is, if they differ in empty parts and
inner `.` parts at most.
-/
theorem memory_output_keeps_last_texts (puts : List (Path × String)) :
    let (answers, o) := taken (puts.mapM fun put => output.put put.1 put.2) ∅
    (answers = puts.map fun _ => .ok ()) ∧
    (∀ path, o.get? path = (putUnder puts path.components).getLast?.map Prod.snd) ∧
    o.size = (puts.map fun put => put.1.components).toFinset.card ∧
    o.paths.Pairwise Path.Before ∧
    (∀ path, path ∈ o.paths ↔
      (putUnder puts path.components).head?.map Prod.fst = some path) ∧
    (∀ p q : Path, p.components = q.components ↔ ¬ p.Before q ∧ ¬ q.Before p) ∧
    ∀ p q : Path, p.components = q.components ↔
      p.isAbsolute = q.isAbsolute ∧ (p.StartsWithDot ↔ q.StartsWithDot) ∧
        p.segments.filter (· ≠ ".") = q.segments.filter (· ≠ ".") := by
  have records : Records (putAll ∅ puts) puts := records_putAll records_empty puts
  rw [taken_mapM_put]
  exact ⟨rfl, fun path => records.last path.components, records.size_eq, records.paths_pairwise,
    fun _ => records.mem_paths_iff, fun _ _ => Path.components_eq_iff_not_before,
    fun _ _ => Path.components_eq_iff⟩

/-- Of six texts under four paths the last ones stay, under the first spellings. -/
example : (putAll ∅ [(⟨"a//b/"⟩, "1"), (⟨"./a/b"⟩, "2"), (⟨"a/./b"⟩, "3"), (⟨"/a/b"⟩, "4"),
    (⟨"a/../b"⟩, "5"), (⟨"././a/b/."⟩, "6")]).files =
      [(⟨"/a/b"⟩, "4"), (⟨"./a/b"⟩, "6"), (⟨"a/../b"⟩, "5"), (⟨"a//b/"⟩, "3")] := by
  decide +kernel

end ModelMigration.OutputMap
