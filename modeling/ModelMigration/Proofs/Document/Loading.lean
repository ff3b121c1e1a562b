import ModelMigration.Proofs.Disk.Writing
import ModelMigration.Store.Document

/-!
# Documents are loaded

Loading a document changes nothing, and succeeds exactly with what the text of its file holds.
-/

namespace ModelMigration.Disk

open FileTree

variable {t u w : FileTree} {p : Path} {text : String}

theorem readDocument_eq_ok_iff :
    taken (readDocument access p) t = (.ok text, u) ↔ u = t ∧ t.readText p = .ok text := by
  simp only [readDocument, taken_bind, taken_present, taken_ite, taken_pure, taken_readText]
  constructor
  · intro read
    split at read
    · cases read
    · cases found : t.readText p with
      | error refusal => simp [found] at read
      | ok content =>
          simp only [found, taken_pure, Prod.mk.injEq, Except.ok.injEq] at read
          obtain ⟨rfl, rfl⟩ := read
          exact ⟨rfl, rfl⟩
  · rintro ⟨rfl, read⟩
    obtain ⟨place, found⟩ := readText_eq_ok_iff.mp read
    simp [found, read, Except.toOption]

theorem loadDocument_eq_ok_iff {α : Type} {load : String → Except Error α} {document : String}
    {a : α} :
    taken (do
        match ← readDocument access p with
        | .error error => return .error error
        | .ok text => return (load text).mapError (inFile p document)) t = (.ok a, u) ↔
      u = t ∧ ∃ text, t.readText p = .ok text ∧ load text = .ok a := by
  rw [taken_bind]
  constructor
  · intro loaded
    rcases read : taken (readDocument access p) t with ⟨error | text, v⟩
    · simp [read] at loaded
    · obtain ⟨rfl, found⟩ := readDocument_eq_ok_iff.mp read
      simp only [read, taken_pure, Prod.mk.injEq, mapError_eq_ok_iff] at loaded
      exact ⟨loaded.2.symm, text, found, loaded.1⟩
  · rintro ⟨rfl, text, found, parsed⟩
    rw [readDocument_eq_ok_iff.mpr ⟨rfl, found⟩]
    simp [parsed, Except.mapError]

theorem loadModel_eq_ok_iff {model : Model} :
    taken (loadModel access p) t = (.ok model, u) ↔
      u = t ∧ ∃ text, t.readText p = .ok text ∧ Model.load text = .ok model :=
  loadDocument_eq_ok_iff

theorem loadConfig_eq_ok_iff {config : Config} :
    taken (loadConfig access p) t = (.ok config, u) ↔
      u = t ∧ ∃ text, t.readText p = .ok text ∧ Config.load text = .ok config :=
  loadDocument_eq_ok_iff

theorem loadStub_eq_ok_iff {stub : Stub} :
    taken (loadStub access p) t = (.ok stub, u) ↔
      u = t ∧ ∃ text, t.readText p = .ok text ∧ stub = ⟨p.fileStem?.getD "stub", text⟩ := by
  simp only [loadStub, taken_bind, taken_readText]
  cases found : t.readText p with
  | error refusal => simp
  | ok text => simp [eq_comm, and_comm]

end ModelMigration.Disk
