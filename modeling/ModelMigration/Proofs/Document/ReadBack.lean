import ModelMigration.Proofs.Document.Loading
import ModelMigration.Proofs.Json.Indented

/-!
# Documents are read back

A model and a configuration come back from their JSON texts as they were, valid or not; from a file
they were saved in they come back if they are valid.
-/

namespace ModelMigration

open Json

/-! ## Fields -/

namespace Field

theorem typeScanner_reads (type : String) :
    Reads typeScanner (.object [("db", .text type)]) type := by
  have finds : List.Forall₂ (Finds [⟨"db", text, none⟩]) [("db", .text type)] [("db", type)] :=
    .cons ⟨rfl, _, rfl, reads_text type⟩ .nil
  exact (reads_record "struct FieldType" finds (by simp) rfl).map fun values => values.getD 0 ""

theorem finds_slot {x : Value} {key s : String} {slot : Slot String}
    (known : (slots.find? fun slot => slot.key = key) = some slot) (reads : Reads slot.read x s) :
    Finds slots (key, x) (key, s) :=
  ⟨rfl, slot, known, reads⟩

theorem scanner_reads (f : Field) : Reads scanner f.json f := by
  have finds : List.Forall₂ (Finds slots)
      [("name", .text f.name), ("type", .object [("db", .text f.type)]),
        ("modifiers", .text f.modifiers), ("index", .text f.index.text),
        ("foreignKey", .text f.foreignKey)]
      [("name", f.name), ("type", f.type), ("modifiers", f.modifiers), ("index", f.index.text),
        ("foreignKey", f.foreignKey)] :=
    .cons (finds_slot rfl (reads_text _)) <| .cons (finds_slot rfl (typeScanner_reads _)) <|
      .cons (finds_slot rfl (reads_text _)) <| .cons (finds_slot rfl (reads_text _)) <|
      .cons (finds_slot rfl (reads_text _)) .nil
  have whole : ofValues [f.name, f.type, f.modifiers, f.index.text, f.foreignKey] = f := by
    simp [ofValues, IndexKind.ofText_text]
  have read : Reads scanner f.json
      (ofValues [f.name, f.type, f.modifiers, f.index.text, f.foreignKey]) :=
    (reads_record "struct FieldDescriptor" finds (by simp) rfl).map ofValues
  rwa [whole] at read

theorem opens_json (f : Field) : Opens f.json := opens_object _

end Field

/-! ## Models -/

namespace Model

theorem scanner_reads (m : Model) : Reads scanner m.json m := by
  have fields : List.Forall₂ (Reads Field.scanner) (m.fields.map Field.json) m.fields := by
    rw [List.forall₂_map_left_iff, List.forall₂_same]
    exact fun f _ => f.scanner_reads
  have opens : ∀ x ∈ m.fields.map Field.json, Opens x := by
    simp only [List.mem_map, forall_exists_index, and_imp, forall_apply_eq_imp_iff₂]
    exact fun f _ => f.opens_json
  have finds : List.Forall₂ (Finds slots) [("fields", .list (m.fields.map Field.json))]
      [("fields", m.fields)] :=
    .cons ⟨rfl, _, rfl, reads_list fields opens⟩ .nil
  exact (reads_record "struct ModelData" finds (by simp) rfl).map fun values =>
    Model.mk (values.getD 0 [])

theorem ofJson_toJson (m : Model) : ofJson m.toJson = .ok m := by
  simp only [ofJson, toJson, readWhole_indented m.scanner_reads]

theorem load_eq_ok_iff {s : String} {m : Model} :
    load s = .ok m ↔ ofJson s = .ok m ∧ m.validate = .ok () := checked_eq_ok_iff

theorem load_toJson {m : Model} (valid : m.validate = .ok ()) : load m.toJson = .ok m :=
  load_eq_ok_iff.mpr ⟨m.ofJson_toJson, valid⟩

end Model

/-! ## Configurations -/

namespace Config

theorem pathsScanner_reads (migrations : String) :
    Reads pathsScanner (.object [("migrations", .text migrations)]) migrations := by
  have finds : List.Forall₂ (Finds [⟨"migrations", text, none⟩])
      [("migrations", .text migrations)] [("migrations", migrations)] :=
    .cons ⟨rfl, _, rfl, reads_text migrations⟩ .nil
  exact (reads_record "struct PathsConfig" finds (by simp) rfl).map fun values => values.getD 0 ""

theorem finds_paths (migrations : String) :
    Finds slots ("paths", .object [("migrations", .text migrations)])
      ("paths", some migrations) := by
  exact ⟨rfl, _, rfl, (pathsScanner_reads migrations).map some⟩

theorem finds_tableName (name : String) :
    Finds slots ("tableName", .text name) ("tableName", some name) :=
  ⟨rfl, _, rfl, reads_textOrNull name⟩

theorem scanner_reads (c : Config) : Reads scanner c.json c := by
  have values : Reads (record "struct ScaffolderConfig" slots) c.json
      [c.tableName?, some c.migrations] := by
    unfold json
    cases c.tableName? with
    | some name =>
        exact reads_record _ (.cons (finds_tableName name) (.cons (finds_paths c.migrations) .nil))
          (by simp) rfl
    | none => exact reads_record _ (.cons (finds_paths c.migrations) .nil) (by simp) rfl
  exact values.map fun values => Config.mk (values.getD 0 none) ((values.getD 1 none).getD "")

theorem ofJson_toJson (c : Config) : ofJson c.toJson = .ok c := by
  simp only [ofJson, toJson, readWhole_indented c.scanner_reads]

theorem load_eq_ok_iff {s : String} {c : Config} :
    load s = .ok c ↔ ofJson s = .ok c ∧ c.validate = .ok () := checked_eq_ok_iff

theorem load_toJson {c : Config} (valid : c.validate = .ok ()) : load c.toJson = .ok c :=
  load_eq_ok_iff.mpr ⟨c.ofJson_toJson, valid⟩

end Config

/-! ## Documents on disk -/

namespace Disk

open FileTree

variable {t u : FileTree} {p : Path} {text : String}

theorem write_of_saveDocument (saved : taken (saveDocument access p text) t = (.ok (), u)) :
    t.write p text.toUTF8 = .ok u := by
  simp only [saveDocument, Access.writeText, taken_bind, taken_write] at saved
  cases write : t.write p text.toUTF8 with
  | ok v =>
      rw [write] at saved
      cases saved
      rfl
  | error refusal =>
      rw [write] at saved
      cases saved

/-- A saved document is there, with the text it was saved with. -/
theorem readText_of_saveDocument (saved : taken (saveDocument access p text) t = (.ok (), u)) :
    u.readText p = .ok text := by
  obtain ⟨directory, name, _, found, _⟩ := find_of_write (write_of_saveDocument saved)
  exact readText_of_find found

theorem loadModel_of_saveModel {m : Model} (valid : m.validate = .ok ())
    (saved : taken (saveModel access p m) t = (.ok (), u)) :
    taken (loadModel access p) u = (.ok m, u) :=
  loadModel_eq_ok_iff.mpr ⟨rfl, _, readText_of_saveDocument saved, Model.load_toJson valid⟩

theorem loadConfig_of_saveConfig {c : Config} (valid : c.validate = .ok ())
    (saved : taken (saveConfig access p c) t = (.ok (), u)) :
    taken (loadConfig access p) u = (.ok c, u) :=
  loadConfig_eq_ok_iff.mpr ⟨rfl, _, readText_of_saveDocument saved, Config.load_toJson valid⟩

/--
Models and configurations survive being written. Each comes back from its JSON text as it was, so
that what any accepted text held is written and read unchanged; and saved in a file it is loaded
unchanged if it is valid.
-/
theorem documents_read_back :
    (∀ m, Model.ofJson m.toJson = .ok m) ∧ (∀ c, Config.ofJson c.toJson = .ok c) ∧
    (∀ s m, Model.load s = .ok m → Model.load m.toJson = .ok m) ∧
    (∀ s c, Config.load s = .ok c → Config.load c.toJson = .ok c) ∧
    (∀ t u p m, m.validate = .ok () → taken (saveModel access p m) t = (.ok (), u) →
      taken (loadModel access p) u = (.ok m, u)) ∧
    (∀ t u p c, c.validate = .ok () → taken (saveConfig access p c) t = (.ok (), u) →
      taken (loadConfig access p) u = (.ok c, u)) := by
  refine ⟨Model.ofJson_toJson, Config.ofJson_toJson, ?_, ?_, ?_, ?_⟩
  · intro s m loaded
    exact Model.load_toJson (Model.load_eq_ok_iff.mp loaded).2
  · intro s c loaded
    exact Config.load_toJson (Config.load_eq_ok_iff.mp loaded).2
  · exact fun t u p m valid saved => loadModel_of_saveModel valid saved
  · exact fun t u p c valid saved => loadConfig_of_saveConfig valid saved

/-- A model with a quote, a backslash and a control character, and a configuration with an empty
table name, come back from their lines and from their files. -/
theorem documents_read_back_control_character :
    let m : Model := ⟨[⟨"title", "string", "default,\"\\\x01", .none, "é\n"⟩]⟩
    let c : Config := ⟨some "", "out\t"⟩
    let t := FileTree.empty ["w"]
    let (modelSaved, withModel) := taken (saveModel access ⟨"m.json"⟩ m) t
    let (configSaved, withConfig) := taken (saveConfig access ⟨"c.json"⟩ c) withModel
    m.validate = .ok () ∧ c.validate = .ok () ∧
      (Model.load m.json.line = .ok m ∧ Model.load m.toJson = .ok m) ∧
      (Config.load c.json.line = .ok c ∧ Config.load c.toJson = .ok c) ∧
      (modelSaved = .ok () ∧ taken (loadModel access ⟨"m.json"⟩) withModel = (.ok m, withModel)) ∧
      (configSaved = .ok () ∧
        taken (loadConfig access ⟨"c.json"⟩) withConfig = (.ok c, withConfig)) := by
  intro m c t
  have modelSaved : (taken (saveModel access ⟨"m.json"⟩ m) t).1 = .ok () := by decide +kernel
  have configSaved : (taken (saveConfig access ⟨"c.json"⟩ c)
      (taken (saveModel access ⟨"m.json"⟩ m) t).2).1 = .ok () := by decide +kernel
  have modelValid : m.validate = .ok () := by decide +kernel
  have configValid : c.validate = .ok () := by decide +kernel
  have modelLine : Model.load m.json.line = .ok m := by decide +kernel
  have configLine : Config.load c.json.line = .ok c := by decide +kernel
  obtain ⟨_, _, models, configs, modelFiles, configFiles⟩ := documents_read_back
  exact ⟨modelValid, configValid, ⟨modelLine, models _ m modelLine⟩,
    ⟨configLine, configs _ c configLine⟩,
    ⟨modelSaved, modelFiles _ _ _ m modelValid (Prod.ext modelSaved rfl)⟩,
    ⟨configSaved, configFiles _ _ _ c configValid (Prod.ext configSaved rfl)⟩⟩

end Disk

end ModelMigration
