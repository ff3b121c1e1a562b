import Mathlib.Data.List.Nodup
import ModelMigration.Proofs.FallibleSteps
import ModelMigration.Statement

/-!
# Declared columns

The statements of a block that declare columns, and the names of these columns. A valid model has no
two fields of one name; the names that the block adds of its own are not looked at.
-/

namespace ModelMigration

/-! ## Valid models -/

namespace Model

/-- The fields are valid exactly if each one is, their names differ and none of them was seen. -/
theorem validateFields_eq_ok_iff {seen : List String} {fields : List Field} :
    validateFields seen fields = .ok () ↔
      (∀ f ∈ fields, f.validate = .ok ()) ∧ (fields.map Field.name).Nodup ∧
        ∀ f ∈ fields, f.name ∉ seen := by
  induction fields generalizing seen with
  | nil => simp [validateFields]
  | cons f fields ih =>
      rw [validateFields, bind_eq_ok_iff]
      by_cases old : f.name ∈ seen
      · simp [old]
      · simp [old, ih]
        grind

theorem validate_eq_ok_iff {m : Model} :
    m.validate = .ok () ↔ validateFields [] m.fields = .ok () ∧ m.validatePrimary = .ok () := by
  rw [validate, bind_eq_ok_iff]
  exact ⟨fun ⟨_, fields, primary⟩ => ⟨fields, primary⟩, fun ⟨fields, primary⟩ => ⟨(), fields, primary⟩⟩

/-- The names of a valid model's fields differ. -/
theorem nodup_names {m : Model} (valid : m.validate = .ok ()) : (m.fields.map Field.name).Nodup :=
  (validateFields_eq_ok_iff.mp (validate_eq_ok_iff.mp valid).1).2.1

end Model

theorem Field.column_eq_ok {f : Field} {c : Column} (h : f.column = .ok c) :
    c.name = f.name ∧ c.index = f.index := by
  unfold column at h
  obtain ⟨_, _, h⟩ := bind_eq_ok_iff.mp h
  obtain ⟨modifiers, _, h⟩ := bind_eq_ok_iff.mp h
  obtain ⟨key, _, h⟩ := bind_eq_ok_iff.mp h
  obtain rfl := Except.ok.inj h
  exact ⟨rfl, rfl⟩

theorem names_of_forall₂ {fields : List Field} {columns : List Column}
    (each : List.Forall₂ (fun f c => c.name = f.name ∧ c.index = f.index) fields columns) :
    columns.map Column.name = fields.map Field.name ∧
      columns.any Column.isPrimary = fields.any Field.isPrimary := by
  induction each with
  | nil => simp
  | cons same each ih =>
      simp [same.1, same.2, ih.1, ih.2, Column.isPrimary, Field.isPrimary]

/-- A model with columns is valid, and each column has the name and the index of its field. -/
theorem Model.columns_eq_ok {m : Model} {columns : List Column} (h : m.columns = .ok columns) :
    m.validate = .ok () ∧ columns.map Column.name = m.fields.map Field.name ∧
      columns.any Column.isPrimary = m.hasPrimary := by
  unfold Model.columns at h
  obtain ⟨_, valid, h⟩ := bind_eq_ok_iff.mp h
  have each := (mapM_eq_ok_iff.mp h).imp fun f c column => Field.column_eq_ok column
  obtain ⟨names, primary⟩ := names_of_forall₂ each
  refine ⟨valid, names, primary.trans ?_⟩
  rw [hasPrimary, primary?, Bool.eq_iff_iff, List.find?_isSome, List.any_eq_true]

/-! ## Declarations -/

/-- A statement of a block that declares columns. -/
inductive Declaration where
  | defaultKey
  | column (c : Column)
  | timestamps

namespace Declaration

/-- The lines of the statement in a block. -/
def text (i : Indent) : Declaration → String
  | defaultKey => defaultKeyStatement i
  | column c => c.statement i
  | timestamps => "\n" ++ i.text ++ timestampsStatement ++ "\n"

/-- The names of the columns that the statement declares. -/
def names : Declaration → List String
  | defaultKey => ["id"]
  | column c => [c.name]
  | timestamps => ["created_at", "updated_at"]

end Declaration

/-- The declarations of a block, in order. -/
def declarations (columns : List Column) : List Declaration :=
  (if columns.any Column.isPrimary then [] else [.defaultKey]) ++
    (columns.map .column ++ [.timestamps])

/-- A block consists of its declarations. -/
theorem block_eq_join (columns : List Column) (i : Indent) :
    block columns i = String.join ((declarations columns).map (Declaration.text i)) := by
  have middle : columns.map (Declaration.text i ∘ Declaration.column) =
      columns.map fun c => c.statement i := rfl
  unfold block declarations
  split <;> simp [Declaration.text, middle, String.append_assoc]

/-- The names of the columns that the block of a model declares. -/
def Model.declaredNames (m : Model) : List String :=
  (if m.hasPrimary then [] else ["id"]) ++ (m.fields.map Field.name ++ ["created_at", "updated_at"])

theorem flatMap_names_declarations (columns : List Column) :
    (declarations columns).flatMap Declaration.names =
      (if columns.any Column.isPrimary then [] else ["id"]) ++
        (columns.map Column.name ++ ["created_at", "updated_at"]) := by
  have each : (columns.map Declaration.column).flatMap Declaration.names =
      columns.map Column.name := by
    rw [List.flatMap_map, List.map_eq_flatMap]
    rfl
  unfold declarations
  split <;> simp [Declaration.names, each]

theorem nodup_declaredNames_iff {m : Model} (valid : m.validate = .ok ()) :
    m.declaredNames.Nodup ↔
      (∀ f ∈ m.fields, f.name ≠ "created_at" ∧ f.name ≠ "updated_at") ∧
        (m.hasPrimary = true ∨ ∀ f ∈ m.fields, f.name ≠ "id") := by
  have names := Model.nodup_names valid
  unfold Model.declaredNames
  cases m.hasPrimary
  · simp [List.nodup_append, names]
    grind
  · simp [List.nodup_append, names]

/--
The block of a model consists of the statements that declare its columns, and the names of these
are distinct exactly if no field takes one that the block adds: those of the timestamps, and the
default key's unless a field is the primary key.
-/
theorem block_declares_once_iff {m : Model} {i : Indent} {text : String}
    (emitted : m.block i = .ok text) :
    ∃ columns, m.columns = .ok columns ∧
      text = String.join ((declarations columns).map (Declaration.text i)) ∧
      (declarations columns).flatMap Declaration.names = m.declaredNames ∧
      (m.declaredNames.Nodup ↔
        (∀ f ∈ m.fields, f.name ≠ "created_at" ∧ f.name ≠ "updated_at") ∧
          (m.hasPrimary = true ∨ ∀ f ∈ m.fields, f.name ≠ "id")) := by
  unfold Model.block at emitted
  obtain ⟨columns, found, emitted⟩ := bind_eq_ok_iff.mp emitted
  obtain ⟨valid, names, primary⟩ := Model.columns_eq_ok found
  refine ⟨columns, found, ?_, ?_, nodup_declaredNames_iff valid⟩
  · rw [← Except.ok.inj emitted, block_eq_join]
  · rw [flatMap_names_declarations, names, primary, Model.declaredNames]

/-- A field `id` that is the primary key takes the place of the default key. -/
theorem block_declares_once_iff_key :
    let m : Model := ⟨[{ Field.plain "id" "integer" with index := .primary }, .plain "at" "time"]⟩
    m.block (.atLevel 0) =
        .ok "$table->integer('id')->primary();\n$table->time('at');\n\n$table->timestamps();\n" ∧
      m.declaredNames = ["id", "at", "created_at", "updated_at"] ∧ m.declaredNames.Nodup := by
  intro m
  have emitted : m.block (.atLevel 0) =
      .ok "$table->integer('id')->primary();\n$table->time('at');\n\n$table->timestamps();\n" := by
    decide +kernel
  obtain ⟨_, _, _, _, once⟩ := block_declares_once_iff emitted
  exact ⟨emitted, rfl, once.mpr (by decide +kernel)⟩

/-- The block of a model may declare a column twice: the default key beside a field `id`, and the
timestamps beside a field `created_at`. -/
theorem block_declares_twice :
    ∃ columns text others otherText,
      Model.columns ⟨[.plain "id" "integer"]⟩ = .ok columns ∧
      Model.block ⟨[.plain "id" "integer"]⟩ (.atLevel 3) = .ok text ∧
      ¬ ((declarations columns).flatMap Declaration.names).Nodup ∧
      Model.columns ⟨[.plain "created_at" "timestamp"]⟩ = .ok others ∧
      Model.block ⟨[.plain "created_at" "timestamp"]⟩ (.atLevel 3) = .ok otherText ∧
      ¬ ((declarations others).flatMap Declaration.names).Nodup :=
  ⟨_, _, _, _, rfl, rfl, by decide, rfl, rfl, by decide⟩

end ModelMigration
