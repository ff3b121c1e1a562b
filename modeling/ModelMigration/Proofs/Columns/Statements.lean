import ModelMigration.Proofs.Columns.PrimaryKeys

/-!
# Statements of a block

Every statement of a block opens alike, with a method of the builder and the name of a column. What
the statements of a column tell of it is its reading; the parts of a reading are identifiers, but for
the arguments of calls, which may be any text that a modifier can have.
-/

namespace ModelMigration

open Text

theorem Indent.not_mem_text {i : Indent} {mark : Char} (dark : mark ≠ ' ') :
    mark ∉ i.text.toList := by
  simp [text, dark]

/-! ## Openings -/

/-- How a statement opens: indented, with a method of the builder and the name of a column. -/
def opening (i : Indent) (method name : String) : String :=
  i.text ++ "$table->" ++ method ++ "('" ++ name ++ "')"

variable {i : Indent}

/-- The method and the name end where a statement says so. -/
theorem opening_append_inj {method method' name name' : String} {rest rest' : List Char}
    (hm : isIdentifier method = true) (hm' : isIdentifier method' = true)
    (hn : isIdentifier name = true) (hn' : isIdentifier name' = true)
    (same : (opening i method name).toList ++ rest = (opening i method' name').toList ++ rest') :
    method = method' ∧ name = name' ∧ rest = rest' := by
  have shape : ∀ (m n : String) (r : List Char), (opening i m n).toList ++ r =
      (i.text ++ "$table->").toList ++
        (m.toList ++ '(' :: '\'' :: (n.toList ++ '\'' :: ')' :: r)) := by
    intro m n r
    simp [opening]
  rw [shape, shape, List.append_cancel_left_eq] at same
  obtain ⟨methods, rest⟩ := append_sep_inj (not_mem_of_isIdentifier hm (by decide))
    (not_mem_of_isIdentifier hm' (by decide)) same
  rw [List.cons_inj_right] at rest
  obtain ⟨names, rest⟩ := append_sep_inj (not_mem_of_isIdentifier hn (by decide))
    (not_mem_of_isIdentifier hn' (by decide)) rest
  rw [List.cons_inj_right] at rest
  exact ⟨String.toList_injective methods, String.toList_injective names, rest⟩

/-- A line that opens a statement is not empty. -/
theorem opening_append_ne_lineBreak {method name : String} {rest rest' : List Char} :
    (opening i method name).toList ++ rest ≠ '\n' :: rest' := by
  intro same
  have first := congrArg List.head? same
  cases blanks : i.level * i.spaces <;>
    simp [opening, Indent.text, blanks, List.replicate_succ] at first

theorem ForeignKey.statement_eq (k : ForeignKey) (i : Indent) (name : String) :
    k.statement i name = opening i "foreign" name ++ "->references('" ++ k.column ++ "')->on('" ++
      k.table ++ "');\n\n" := by
  have front : "$table->foreign('" = "$table->" ++ "foreign" ++ "('" := by decide
  have middle : "')->references('" = "')" ++ "->references('" := by decide
  unfold statement opening
  rw [front, middle]
  simp only [String.append_assoc]

theorem defaultKeyStatement_eq (i : Indent) :
    defaultKeyStatement i = opening i "increments" "id" ++ ";\n\n" := by
  have text : "$table->increments('id');\n\n" =
      "$table->" ++ "increments" ++ "('" ++ "id" ++ "')" ++ ";\n\n" := by
    decide
  unfold defaultKeyStatement opening
  rw [text]
  simp only [String.append_assoc]

/-! ## Readings -/

/-- What the statements of a column tell of it. Whether its last call is a modifier or the index is
not among it. -/
structure Reading where
  name : String
  type : String
  calls : List Modifier
  foreignKey? : Option ForeignKey
deriving DecidableEq, Repr

namespace Reading

/-- The text of the constraint, empty if there is none. -/
def constraint (r : Reading) (i : Indent) : String :=
  match r.foreignKey? with
  | some k => k.statement i r.name
  | none => ""

/-- The text that tells the reading. -/
def statement (r : Reading) (i : Indent) : String :=
  opening i r.type r.name ++ String.join (r.calls.map Modifier.call) ++ ";\n" ++ r.constraint i

theorem constraint_of_some {r : Reading} {k : ForeignKey} (key : r.foreignKey? = some k) :
    r.constraint i = k.statement i r.name := by
  simp only [constraint, key]

theorem constraint_of_none {r : Reading} (key : r.foreignKey? = none) : r.constraint i = "" := by
  simp only [constraint, key]

/-- Whether a call has an identifier for its name, and no argument that is empty or has a mark in
it. -/
structure SoundCall (mark : Char) (m : Modifier) : Prop where
  name : isIdentifier m.name = true
  argument : ∀ a ∈ m.argument?, a ≠ "" ∧ mark ∉ a.toList

theorem SoundCall.not_mem_argument {mark : Char} {m : Modifier} (call : SoundCall mark m) :
    mark ∉ (m.argument?.getD "").toList := by
  cases given : m.argument? with
  | none => exact List.not_mem_nil
  | some a => exact (call.argument a given).2

/-- Whether the parts of a reading are identifiers, but for arguments without a mark in them. -/
structure Sound (mark : Char) (r : Reading) : Prop where
  name : isIdentifier r.name = true
  type : isIdentifier r.type = true
  calls : ∀ m ∈ r.calls, SoundCall mark m
  foreignKey : ∀ k ∈ r.foreignKey?, k.Sound

end Reading

/-- The reading of a column. -/
def Column.reading (c : Column) : Reading := ⟨c.name, c.type.name, c.chain, c.foreignKey?⟩

theorem Column.statement_eq (c : Column) (i : Indent) :
    c.statement i = c.reading.statement i := by
  unfold Reading.statement
  rw [reading, ← Column.calls_eq_join]
  rfl

/-- A block is the default key, if it is there, and the readings of its columns, with an empty line
and the timestamps behind them. -/
theorem block_eq_readings (columns : List Column) (i : Indent) :
    block columns i = (if columns.any Column.isPrimary then "" else defaultKeyStatement i) ++
      String.join ((columns.map Column.reading).map fun r => r.statement i) ++
        ("\n" ++ i.text ++ timestampsStatement ++ "\n") := by
  have statements : (columns.map fun c => c.statement i) =
      (columns.map Column.reading).map fun r => r.statement i := by
    rw [List.map_map]
    exact List.map_congr_left fun c _ => c.statement_eq i
  unfold block
  rw [statements]
  simp only [String.append_assoc]

/-! ## Readings of models -/

/-- Whether no argument of the model's modifiers has a character in it. -/
def Model.ArgumentsAvoid (m : Model) (mark : Char) : Prop :=
  ∀ f ∈ m.fields, ∀ modifiers, Modifier.parse f.name f.modifiers = .ok modifiers →
    ∀ x ∈ modifiers, ∀ a ∈ x.argument?, mark ∉ a.toList

theorem Field.reading_sound {f : Field} {c : Column} {mark : Char} (sound : f.Sound)
    (declares : f.Declares c) (free : ∀ x ∈ c.modifiers, ∀ a ∈ x.argument?, mark ∉ a.toList) :
    c.reading.Sound mark where
  name := by
    rw [Column.reading, declares.name]
    exact sound.name
  type := by
    rw [Column.reading, declares.type]
    exact sound.type
  calls := by
    intro m mem
    rcases List.mem_append.mp mem with modifier | index
    · have spelled := declares.modifiers.sound m modifier
      exact ⟨spelled.name, fun a given => ⟨(spelled.argument a given).1, free m modifier a given⟩⟩
    · split at index
      · rw [List.mem_singleton.mp index, declares.index]
        exact ⟨Field.index_iff.mp sound.index, by simp⟩
      · exact absurd index List.not_mem_nil
  foreignKey := by
    intro k key
    have spelled := declares.foreignKey
    rw [show c.foreignKey? = some k from key] at spelled
    exact spelled.1

theorem Model.reading_sound {m : Model} {columns : List Column} {mark : Char}
    (found : m.columns = .ok columns) (free : m.ArgumentsAvoid mark) :
    ∀ c ∈ columns, c.reading.Sound mark := by
  obtain ⟨fields, _, each⟩ := Model.columns_eq_ok_iff.mp found
  have each : List.Forall₂ (fun f c => f ∈ m.fields ∧ f.Declares c) m.fields columns :=
    (List.forall₂_and_left _ _).mpr ⟨fun _ mem => mem, each⟩
  intro c mem
  obtain ⟨f, inModel, declares⟩ := exists_of_forall₂_of_mem each.flip mem
  have read : Modifier.parse f.name f.modifiers = .ok c.modifiers :=
    Modifier.parse_eq_ok_iff.mpr declares.modifiers
  exact Field.reading_sound (fields.sound f inModel) declares (free f inModel c.modifiers read)

end ModelMigration
