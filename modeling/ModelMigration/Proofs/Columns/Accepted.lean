import ModelMigration.Proofs.Columns.Declared
import ModelMigration.Proofs.Columns.Directives

/-!
# Accepted models

A model has columns exactly if it is well formed, one for each field, and nothing of a field is
lost. Of a model that is not the first fault is told: fields are looked at from the first to the
last, then the primary keys are counted, and then directives are read field by field.
-/

namespace ModelMigration

open Text

/-! ## Fields -/

namespace Field

/-- Whether the name, the type and the index of a field can stand in a statement. An index of the
builder's own always can. -/
structure Sound (f : Field) : Prop where
  name : isIdentifier f.name = true
  type : isIdentifier f.type = true
  index : f.index = .none ∨ f.index.text ∈ IndexKind.methods ∨ isIdentifier f.index.text = true

/-- What is wrong with a field that is not sound: its name, or else its type, or else its index. -/
inductive Fault (f : Field) : Error → Prop where
  | noName (empty : f.name = "") : f.Fault (.validation "Field name cannot be empty")
  | badName (filled : f.name ≠ "") (bad : isIdentifier f.name = false) :
      f.Fault (.fieldValidation f.name "Field name is not a valid identifier")
  | badType (name : isIdentifier f.name = true) (bad : isIdentifier f.type = false) :
      f.Fault (.fieldValidation f.name ("Invalid column type '" ++ f.type ++ "'"))
  | badIndex (name : isIdentifier f.name = true) (type : isIdentifier f.type = true)
      (bad : isIdentifier f.index.text = false) :
      f.Fault (.invalidIndex f.name f.index.text)

theorem isIdentifier_of_isBuiltIn {name : String} (h : ColumnType.isBuiltIn name = true) :
    isIdentifier name = true := by
  have all : ∀ word ∈ ColumnType.vocabulary, isIdentifier word = true := by decide +kernel
  exact all name (List.contains_iff_mem.mp h)

theorem typeRefused_iff {name : String} :
    (!ColumnType.isBuiltIn name && !isIdentifier name) = true ↔ isIdentifier name = false := by
  cases known : ColumnType.isBuiltIn name
  · simp
  · simp [isIdentifier_of_isBuiltIn known]

theorem index_iff {k : IndexKind} :
    k = .none ∨ k.text ∈ IndexKind.methods ∨ isIdentifier k.text = true ↔
      isIdentifier k.text = true := by
  have own : ∀ word ∈ "none" :: IndexKind.methods, isIdentifier word = true := by decide
  constructor
  · rintro (rfl | method | ident)
    · exact own "none" List.mem_cons_self
    · exact own k.text (List.mem_cons_of_mem _ method)
    · exact ident
  · exact fun ident => .inr (.inr ident)

theorem sound_iff {f : Field} :
    f.Sound ↔ isIdentifier f.name = true ∧ isIdentifier f.type = true ∧
      isIdentifier f.index.text = true :=
  ⟨fun h => ⟨h.name, h.type, index_iff.mp h.index⟩, fun h => ⟨h.1, h.2.1, index_iff.mpr h.2.2⟩⟩

theorem validate_eq_error_iff {f : Field} {e : Error} : f.validate = .error e ↔ f.Fault e := by
  unfold validate
  simp only [typeRefused_iff, Bool.not_eq_true']
  constructor
  · intro h
    split at h
    · next empty => exact Except.error.inj h ▸ .noName empty
    · next filled =>
        split at h
        · next bad => exact Except.error.inj h ▸ .badName filled bad
        · next name =>
            simp only [Bool.not_eq_false] at name
            split at h
            · next bad => exact Except.error.inj h ▸ .badType name bad
            · next type =>
                simp only [Bool.not_eq_false] at type
                split at h
                · next bad => exact Except.error.inj h ▸ .badIndex name type bad
                · cases h
  · intro fault
    cases fault with
    | noName empty => simp [empty]
    | badName filled bad => simp [filled, bad]
    | badType name bad => simp [isIdentifier_ne_empty name, name, bad]
    | badIndex name type bad => simp [isIdentifier_ne_empty name, name, type, bad]

theorem validate_eq_ok_iff {f : Field} : f.validate = .ok () ↔ f.Sound := by
  rw [sound_iff]
  unfold validate
  simp only [typeRefused_iff, Bool.not_eq_true']
  constructor
  · intro h
    split at h
    · cases h
    · split at h
      · cases h
      · split at h
        · cases h
        · split at h
          · cases h
          · next name type index => simp_all
  · rintro ⟨name, type, index⟩
    simp [isIdentifier_ne_empty name, name, type, index]

/-! ## Directives of fields -/

/-- Whether the directives of a field can be read. -/
structure Readable (f : Field) : Prop where
  modifiers : ∃ modifiers, Modifier.Spell modifiers f.modifiers
  foreignKey : isBlankText f.foreignKey = true ∨ ∃ k : ForeignKey, k.Sound ∧ k.SpelledAs f.foreignKey

/-- Whether the column has all that the field says. -/
structure Declares (f : Field) (c : Column) : Prop where
  name : c.name = f.name
  type : c.type.name = f.type
  index : c.index = f.index
  modifiers : Modifier.Spell c.modifiers f.modifiers
  foreignKey : ForeignKey.Spell c.foreignKey? f.foreignKey

/-- What is wrong with the directives of a field: the leftmost piece that is no modifier, or else
the foreign key. -/
inductive DirectiveFault (f : Field) : Error → Prop where
  | modifier {front back : List String} {piece : String} {fault : ModifierFault}
      (filled : isBlankText f.modifiers = false)
      (split : pieces ':' f.modifiers = front ++ piece :: back)
      (before : ∀ text ∈ front, Modifier.IsDirective text) (bad : ¬ Modifier.IsDirective piece)
      (refused : Modifier.ofDirective piece = .error fault) :
      f.DirectiveFault (.invalidModifier f.name piece fault.message)
  | foreignKey (modifiers : ∃ modifiers, Modifier.Spell modifiers f.modifiers)
      (filled : isBlankText f.foreignKey = false)
      (bad : ¬ ∃ k : ForeignKey, k.Sound ∧ k.SpelledAs f.foreignKey) :
      f.DirectiveFault (.invalidForeignKey f.name f.foreignKey)

theorem exists_spell_foreignKey_iff {text : String} :
    (∃ key?, ForeignKey.Spell key? text) ↔
      isBlankText text = true ∨ ∃ k : ForeignKey, k.Sound ∧ k.SpelledAs text := by
  constructor
  · rintro ⟨_ | k, spelled⟩
    · exact .inl spelled
    · exact .inr ⟨k, spelled⟩
  · rintro (blank | ⟨k, spelled⟩)
    · exact ⟨none, blank⟩
    · exact ⟨some k, spelled⟩

theorem column_eq_ok_iff {f : Field} {c : Column} :
    f.column = .ok c ↔ f.Sound ∧ f.Declares c := by
  unfold column
  simp only [bind_eq_ok_iff, Modifier.parse_eq_ok_iff, ForeignKey.parse_eq_ok_iff]
  constructor
  · rintro ⟨⟨⟩, valid, modifiers, spelled, key?, key, ⟨⟩⟩
    exact ⟨validate_eq_ok_iff.mp valid, rfl, rfl, rfl, spelled, key⟩
  · rintro ⟨sound, same⟩
    obtain ⟨name, ⟨type⟩, modifiers, index, key?⟩ := c
    obtain ⟨rfl, rfl, rfl, spelled, key⟩ := same
    exact ⟨(), validate_eq_ok_iff.mpr sound, modifiers, spelled, key?, key, rfl⟩

theorem exists_declares_iff {f : Field} : (∃ c, f.Declares c) ↔ f.Readable := by
  constructor
  · rintro ⟨c, same⟩
    exact ⟨⟨_, same.modifiers⟩, exists_spell_foreignKey_iff.mp ⟨_, same.foreignKey⟩⟩
  · rintro ⟨⟨modifiers, spelled⟩, foreignKey⟩
    obtain ⟨key?, key⟩ := exists_spell_foreignKey_iff.mpr foreignKey
    exact ⟨⟨f.name, ⟨f.type⟩, modifiers, f.index, key?⟩, rfl, rfl, rfl, spelled, key⟩

theorem column_eq_error_iff {f : Field} {e : Error} (sound : f.Sound) :
    f.column = .error e ↔ f.DirectiveFault e := by
  have valid : f.validate = .ok () := validate_eq_ok_iff.mpr sound
  unfold column
  simp only [bind_eq_error_iff, valid, Modifier.parse_eq_ok_iff, Modifier.parse_eq_error_iff,
    ForeignKey.parse_eq_error_iff, exists_spell_foreignKey_iff, not_or, Bool.not_eq_true]
  constructor
  · rintro (⟨⟨⟩⟩ | ⟨_, _, ⟨filled, front, piece, back, split, before, bad, fault, refused, rfl⟩ |
      ⟨modifiers, spelled, ⟨⟨filled, bad⟩, rfl⟩ | ⟨_, _, ⟨⟩⟩⟩⟩)
    · exact .modifier filled split before bad refused
    · exact .foreignKey ⟨modifiers, spelled⟩ filled bad
  · intro fault
    refine .inr ⟨(), trivial, ?_⟩
    cases fault with
    | modifier filled split before bad refused =>
        exact .inl ⟨filled, _, _, _, split, before, bad, _, refused, rfl⟩
    | foreignKey modifiers filled bad =>
        obtain ⟨modifiers, spelled⟩ := modifiers
        exact .inr ⟨modifiers, spelled, .inl ⟨⟨filled, bad⟩, rfl⟩⟩

end Field

/-! ## Models -/

namespace Model

/-- Whether fields are sound and their names differ. -/
structure SoundFields (fields : List Field) : Prop where
  sound : ∀ f ∈ fields, f.Sound
  names : (fields.map Field.name).Nodup

/-- Whether each field is sound and its directives can be read, no two have one name, and at most
one is the primary key. -/
structure WellFormed (m : Model) : Prop extends SoundFields m.fields where
  primary : (m.fields.filter Field.isPrimary).length ≤ 1
  readable : ∀ f ∈ m.fields, f.Readable

/-- What is said of a model that is not well formed. -/
inductive Refused (m : Model) : Error → Prop where
  | field {front back : List Field} {f : Field} {e : Error}
      (split : m.fields = front ++ f :: back) (before : SoundFields front) (fault : f.Fault e) :
      m.Refused e
  | again {front back : List Field} {f : Field} (split : m.fields = front ++ f :: back)
      (before : SoundFields front) (sound : f.Sound) (taken : f.name ∈ front.map Field.name) :
      m.Refused (.fieldValidation f.name "Duplicate field name")
  | primaries {first second : String} {others : List String} (sound : SoundFields m.fields)
      (names : (m.fields.filter Field.isPrimary).map Field.name = first :: second :: others) :
      m.Refused (.fieldValidation second
        ("Only one primary key is allowed, found: " ++ joined ", " (first :: second :: others)))
  | directive {front back : List Field} {f : Field} {e : Error} (sound : SoundFields m.fields)
      (primary : (m.fields.filter Field.isPrimary).length ≤ 1)
      (split : m.fields = front ++ f :: back) (before : ∀ g ∈ front, g.Readable)
      (fault : f.DirectiveFault e) : m.Refused e

theorem validateFields_nil_eq_ok_iff {fields : List Field} :
    validateFields [] fields = .ok () ↔ SoundFields fields := by
  simp only [validateFields_eq_ok_iff, Field.validate_eq_ok_iff, List.not_mem_nil, not_false_eq_true,
    implies_true, and_true]
  exact ⟨fun h => ⟨h.1, h.2⟩, fun h => ⟨h.sound, h.names⟩⟩

theorem validateFields_eq_error_iff {seen : List String} {fields : List Field} {e : Error} :
    validateFields seen fields = .error e ↔
      ∃ front f back, fields = front ++ f :: back ∧ validateFields seen front = .ok () ∧
        (f.Fault e ∨ f.Sound ∧ (f.name ∈ seen ∨ f.name ∈ front.map Field.name) ∧
          e = .fieldValidation f.name "Duplicate field name") := by
  induction fields generalizing seen with
  | nil => simp [validateFields]
  | cons first others ih =>
      rw [validateFields, bind_eq_error_iff, Field.validate_eq_error_iff]
      constructor
      · rintro (fault | ⟨⟨⟩, valid, rest⟩)
        · exact ⟨[], first, others, rfl, rfl, .inl fault⟩
        · split at rest
          · next taken =>
              exact ⟨[], first, others, rfl, rfl, .inr ⟨Field.validate_eq_ok_iff.mp valid,
                .inl taken, (Except.error.inj rest).symm⟩⟩
          · next free =>
              obtain ⟨front, f, back, rfl, before, told⟩ := ih.mp rest
              refine ⟨first :: front, f, back, rfl, ?_, ?_⟩
              · rw [validateFields, bind_eq_ok_iff]
                exact ⟨(), valid, by rwa [if_neg free]⟩
              · simpa [or_assoc, or_left_comm] using told
      · rintro ⟨front, f, back, split, before, told⟩
        cases front with
        | nil =>
            obtain ⟨rfl, rfl⟩ := List.cons.inj split
            rcases told with fault | ⟨sound, taken, rfl⟩
            · exact .inl fault
            · exact .inr ⟨(), Field.validate_eq_ok_iff.mpr sound, if_pos (by simpa using taken)⟩
        | cons g front =>
            obtain ⟨rfl, rfl⟩ := List.cons.inj split
            rw [validateFields, bind_eq_ok_iff] at before
            obtain ⟨_, valid, before⟩ := before
            split at before
            · cases before
            · next free =>
                refine .inr ⟨(), valid, ?_⟩
                rw [if_neg free, ih]
                refine ⟨front, f, back, rfl, before, ?_⟩
                simpa [or_assoc, or_left_comm] using told

theorem validatePrimary_eq_ok_iff {m : Model} :
    m.validatePrimary = .ok () ↔ (m.fields.filter Field.isPrimary).length ≤ 1 := by
  unfold validatePrimary
  rcases m.fields.filter Field.isPrimary with _ | ⟨first, _ | ⟨second, others⟩⟩ <;> simp

theorem validatePrimary_eq_error_iff {m : Model} {e : Error} :
    m.validatePrimary = .error e ↔
      ∃ first second others,
        (m.fields.filter Field.isPrimary).map Field.name = first :: second :: others ∧
        e = .fieldValidation second
          ("Only one primary key is allowed, found: " ++ joined ", " (first :: second :: others)) := by
  unfold validatePrimary
  rcases m.fields.filter Field.isPrimary with _ | ⟨first, _ | ⟨second, others⟩⟩
  · simp
  · simp
  · simp [eq_comm]

theorem validate_eq_ok_iff_sound {m : Model} :
    m.validate = .ok () ↔
      SoundFields m.fields ∧ (m.fields.filter Field.isPrimary).length ≤ 1 := by
  rw [validate_eq_ok_iff, validateFields_nil_eq_ok_iff, validatePrimary_eq_ok_iff]

theorem columns_eq_ok_iff {m : Model} {columns : List Column} :
    m.columns = .ok columns ↔
      SoundFields m.fields ∧ (m.fields.filter Field.isPrimary).length ≤ 1 ∧
        List.Forall₂ Field.Declares m.fields columns := by
  unfold Model.columns
  rw [bind_eq_ok_iff, mapM_eq_ok_iff]
  simp only [Field.column_eq_ok_iff, List.forall₂_and_left]
  constructor
  · rintro ⟨⟨⟩, valid, _, each⟩
    obtain ⟨sound, primary⟩ := validate_eq_ok_iff_sound.mp valid
    exact ⟨sound, primary, each⟩
  · rintro ⟨sound, primary, each⟩
    exact ⟨(), validate_eq_ok_iff_sound.mpr ⟨sound, primary⟩, sound.sound, each⟩

theorem validate_eq_error_iff {m : Model} {e : Error} :
    m.validate = .error e ↔
      validateFields [] m.fields = .error e ∨
        SoundFields m.fields ∧ m.validatePrimary = .error e := by
  rw [validate, bind_eq_error_iff, ← validateFields_nil_eq_ok_iff]
  constructor
  · rintro (fields | ⟨⟨⟩, valid, primary⟩)
    · exact .inl fields
    · exact .inr ⟨valid, primary⟩
  · rintro (fields | ⟨valid, primary⟩)
    · exact .inl fields
    · exact .inr ⟨(), valid, primary⟩

theorem exists_columns_iff {m : Model} : (∃ columns, m.columns = .ok columns) ↔ m.WellFormed := by
  simp only [columns_eq_ok_iff, exists_and_left, exists_forall₂_iff, Field.exists_declares_iff]
  constructor
  · rintro ⟨sound, primary, readable⟩
    exact ⟨sound, primary, readable⟩
  · rintro ⟨sound, primary, readable⟩
    exact ⟨sound, primary, readable⟩

theorem refused_of_validate {m : Model} {e : Error} (h : m.validate = .error e) : m.Refused e := by
  rcases validate_eq_error_iff.mp h with fields | ⟨sound, primary⟩
  · obtain ⟨front, f, back, split, before, told⟩ := validateFields_eq_error_iff.mp fields
    have before := validateFields_nil_eq_ok_iff.mp before
    rcases told with fault | ⟨sound, taken, rfl⟩
    · exact .field split before fault
    · exact .again split before sound (by simpa using taken)
  · obtain ⟨first, second, others, names, rfl⟩ := validatePrimary_eq_error_iff.mp primary
    exact .primaries sound names

theorem columns_eq_error_iff {m : Model} {e : Error} : m.columns = .error e ↔ m.Refused e := by
  unfold Model.columns
  rw [bind_eq_error_iff]
  constructor
  · rintro (refused | ⟨⟨⟩, valid, directives⟩)
    · exact refused_of_validate refused
    · obtain ⟨sound, primary⟩ := validate_eq_ok_iff_sound.mp valid
      obtain ⟨front, f, back, split, before, fails⟩ := mapM_eq_error_iff.mp directives
      refine .directive sound primary split ?_
        ((Field.column_eq_error_iff (sound.sound f (by simp [split]))).mp fails)
      intro g mem
      obtain ⟨c, declared⟩ := before g mem
      exact Field.exists_declares_iff.mp ⟨c, (Field.column_eq_ok_iff.mp declared).2⟩
  · intro refused
    cases refused with
    | field split before fault =>
        left
        exact validate_eq_error_iff.mpr (.inl (validateFields_eq_error_iff.mpr
          ⟨_, _, _, split, validateFields_nil_eq_ok_iff.mpr before, .inl fault⟩))
    | again split before sound taken =>
        left
        exact validate_eq_error_iff.mpr (.inl (validateFields_eq_error_iff.mpr
          ⟨_, _, _, split, validateFields_nil_eq_ok_iff.mpr before, .inr ⟨sound, .inr taken, rfl⟩⟩))
    | primaries sound names =>
        left
        exact validate_eq_error_iff.mpr
          (.inr ⟨sound, validatePrimary_eq_error_iff.mpr ⟨_, _, _, names, rfl⟩⟩)
    | @directive front back f e sound primary split before fault =>
        right
        refine ⟨(), validate_eq_ok_iff_sound.mpr ⟨sound, primary⟩,
          mapM_eq_error_iff.mpr ⟨front, f, back, split, ?_, ?_⟩⟩
        · intro g mem
          obtain ⟨c, declared⟩ := Field.exists_declares_iff.mpr (before g mem)
          exact ⟨c, Field.column_eq_ok_iff.mpr ⟨sound.sound g (by simp [split, mem]), declared⟩⟩
        · exact (Field.column_eq_error_iff (sound.sound f (by simp [split]))).mpr fault

/--
A model has columns exactly if it is well formed. There is one for each field, in order, with all
that the field says. Of another model the first fault is told: that of the earliest field which is
not sound or repeats a name, or else that there are several primary keys, or else that of the
earliest directive that cannot be read.
-/
theorem columns_exactly (m : Model) :
    ((∃ columns, m.columns = .ok columns) ↔ m.WellFormed) ∧
      (∀ columns, m.columns = .ok columns → List.Forall₂ Field.Declares m.fields columns) ∧
      ∀ e, m.columns = .error e ↔ m.Refused e :=
  ⟨exists_columns_iff, fun _ found => (columns_eq_ok_iff.mp found).2.2,
    fun _ => columns_eq_error_iff⟩

end Model

end ModelMigration
