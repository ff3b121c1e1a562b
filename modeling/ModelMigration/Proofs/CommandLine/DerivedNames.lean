import ModelMigration.Proofs.CommandLine.InTree
import ModelMigration.Proofs.Text.PascalCase

/-!
# Names derived from files

A model that is given no name has that of its file, in Pascal case. Such a name has none of the
characters that mean something in paths, templates or program texts. It can be empty, though: a file
whose name has no letter and no number in front of the extension has a stem, but no word in it.
-/

namespace ModelMigration

open Text

/-! ## Characters that names must not have -/

/-- The characters with the Unicode property `Quotation_Mark`, and the grave accent. -/
def quoteSpans : List Span := [
  ⟨0x22, 0x22, 1⟩, ⟨0x27, 0x27, 1⟩, ⟨0x60, 0x60, 1⟩, ⟨0xAB, 0xAB, 1⟩, ⟨0xBB, 0xBB, 1⟩,
  ⟨0x2018, 0x201F, 1⟩, ⟨0x2039, 0x203A, 1⟩, ⟨0x2E42, 0x2E42, 1⟩, ⟨0x300C, 0x300F, 1⟩,
  ⟨0x301D, 0x301F, 1⟩, ⟨0xFE41, 0xFE44, 1⟩, ⟨0xFF02, 0xFF02, 1⟩, ⟨0xFF07, 0xFF07, 1⟩,
  ⟨0xFF62, 0xFF63, 1⟩]

/-- Whether a character is a quote of any kind. -/
def isQuote (c : Char) : Bool := Span.cover quoteSpans c

/-- The characters that mean something in a path, a template or a program text. -/
def markup : List Char := ['/', '_', '-', '.', '\x7b', '\x7d', '$']

/-- Whether a name has no markup, no quotes and no white space. -/
def Unmarked (name : String) : Prop :=
  ∀ c ∈ name.toList, c ∉ markup ∧ isQuote c = false ∧ isBlank c = false

/-- Whether a model can go by a name. -/
structure Usable (name : String) : Prop where
  filled : name ≠ ""
  unmarked : Unmarked name

theorem not_mem_markup_of_isWordPart {c : Char} (h : isWordPart c = true) : c ∉ markup := by
  have table : (markup.all fun d => !isWordPart d) = true := by decide +kernel
  intro mem
  have other := List.all_eq_true.mp table c mem
  rw [h] at other
  cases other

theorem cover_eq_false_of_isWordPart {spans : List Span} {c : Char}
    (apart : (spans.all fun s => alphanumericSpans.all s.apart) = true)
    (marks : (caseMarks.all fun mark => !Span.cover spans mark) = true)
    (h : isWordPart c = true) : Span.cover spans c = false := by
  refine Bool.eq_false_iff.mpr fun covered => ?_
  rcases Bool.or_eq_true_iff.mp h with letter | mark
  · rw [isAlphanumeric, cover_eq_false_of_apart apart covered] at letter
    contradiction
  · have other := List.all_eq_true.mp marks c (of_decide_eq_true mark)
    rw [covered] at other
    contradiction

theorem unmarked_pascalCase (text : String) : Unmarked (pascalCase text) := by
  intro c mem
  have part := isWordPart_of_mem_pascalCase mem
  exact ⟨not_mem_markup_of_isWordPart part,
    cover_eq_false_of_isWordPart (by decide +kernel) (by decide +kernel) part,
    cover_eq_false_of_isWordPart (by decide +kernel) (by decide +kernel) part⟩

/-! ## Names of models -/

/-- Every stem is taken, since none is empty. -/
theorem modelName?_eq_map (path : Path) : modelName? path = path.fileStem?.map pascalCase := by
  cases stem : path.fileStem? with
  | none => simp [modelName?, stem]
  | some text => simp [modelName?, stem, Path.fileStem?_ne_empty stem]

theorem modelName?_eq_none_iff (path : Path) : modelName? path = none ↔ path.fileName? = none := by
  rw [modelName?_eq_map, Path.fileStem?, Option.map_eq_none_iff, Option.map_eq_none_iff]

theorem unmarked_of_modelName? {path : Path} {name : String} (h : modelName? path = some name) :
    Unmarked name := by
  rw [modelName?_eq_map] at h
  obtain ⟨stem, -, rfl⟩ := Option.map_eq_some_iff.mp h
  exact unmarked_pascalCase stem

/-- A derived name is empty where the stem has no letter and no number, and only there. -/
theorem modelName?_eq_empty_iff (path : Path) : modelName? path = some "" ↔
    ∃ stem, path.fileStem? = some stem ∧ ∀ c ∈ stem.toList, isAlphanumeric c = false := by
  rw [modelName?_eq_map, Option.map_eq_some_iff]
  simp only [pascalCase_eq_empty_iff]

namespace CommandLine

open Disk

variable {σ : Type} {disk : Access (StateM σ)} {job : Job} {clock later : Clock} {path : Path}
  {x z : σ} {r : Request} {a : Artifact}

/-- Without a name of its own, a model is compiled under the name of its file. -/
theorem Compiles.modelName?_eq (compiled : Compiles disk job clock path x r a later z)
    (unnamed : job.arguments.name? = none) : modelName? path = some r.name := by
  obtain ⟨model, y, -, asked, -⟩ := compiled
  obtain ⟨name, named, rfl⟩ := Job.request_eq_ok_iff.mp asked
  rwa [CompileArguments.nameOf?, unnamed, Option.none_or] at named

/-- The migration of a model that is compiled stands where its name and the time put it. -/
theorem Compiles.path_eq (compiled : Compiles disk job clock path x r a later z) :
    a.path = Compiler.destination job.settings r.name r.config later.current := by
  obtain ⟨model, y, -, -, calls, ended⟩ := compiled
  exact (Compiler.placed_of_endedAt (Compiler.endedAt_of_compiled rfl ended).2.2).1

/--
The name of the model in a file is its stem in Pascal case, and missing only where the path does not
end in a name: no stem is empty. It has no markup, no quotes and no white space, and is usable exactly
if the stem has a letter or a number. Without a name of its own, each model is compiled under that
name, and its migration is named after it.
-/
theorem derived_name_usable_iff (path : Path) :
    modelName? path = path.fileStem?.map pascalCase ∧
    (∀ other : Path, other.fileStem? = path.fileStem? → modelName? other = modelName? path) ∧
    (modelName? path = none ↔ path.fileName? = none) ∧
    (∀ name, modelName? path = some name → Unmarked name) ∧
    ((∀ name, modelName? path = some name → Usable name) ↔
      ∀ stem, path.fileStem? = some stem → ∃ c ∈ stem.toList, isAlphanumeric c = true) ∧
    ∀ (σ : Type) (disk : Access (StateM σ)) (job : Job) (clock : Clock) (x : σ) (r : Request)
      (a : Artifact) (later : Clock) (z : σ), job.arguments.name? = none →
      Compiles disk job clock path x r a later z →
      modelName? path = some r.name ∧
        a.path = Compiler.destination job.settings r.name r.config later.current := by
  refine ⟨modelName?_eq_map path,
    fun other same => by rw [modelName?_eq_map, modelName?_eq_map, same],
    modelName?_eq_none_iff path, fun _ => unmarked_of_modelName?, ?_,
    fun _ _ _ _ _ _ _ _ _ unnamed compiled => ⟨compiled.modelName?_eq unnamed, compiled.path_eq⟩⟩
  constructor
  · intro usable stem found
    by_contra none
    have blank : modelName? path = some "" :=
      (modelName?_eq_empty_iff path).mpr ⟨stem, found, fun c mem => by
        simpa using fun letter => none ⟨c, mem, letter⟩⟩
    exact (usable "" blank).filled rfl
  · intro lettered name named
    refine ⟨?_, unmarked_of_modelName? named⟩
    rintro rfl
    obtain ⟨stem, found, none⟩ := (modelName?_eq_empty_iff path).mp named
    obtain ⟨c, mem, letter⟩ := lettered stem found
    rw [none c mem] at letter
    contradiction

/-- Out of three underscores comes an empty name. -/
theorem derived_name_empty :
    modelName? ⟨"___.json"⟩ = some "" ∧
      ¬ ∀ path name, modelName? path = some name → Usable name := by
  have empty : modelName? ⟨"___.json"⟩ = some "" := by decide +kernel
  exact ⟨empty, fun usable => (usable _ _ empty).filled rfl⟩

end CommandLine

end ModelMigration
