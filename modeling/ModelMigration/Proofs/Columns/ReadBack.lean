import ModelMigration.Proofs.Columns.Statements

/-!
# Reading a block back

Two models with one block have the same fields, as far as statements tell of them: name, type, calls
and foreign key. A field of type `foreign` is no constraint, since it has a name of its own, and a
field `id` that counts is not the default key, since no empty line follows it.
-/

namespace ModelMigration

open Text

/-! ## One statement -/

namespace Reading

variable {i : Indent} {rest rest' : List Char}

theorem argument?_inj {m m' : Modifier} (call : SoundCall ')' m) (call' : SoundCall ')' m')
    (same : m.argument?.getD "" = m'.argument?.getD "") : m.argument? = m'.argument? := by
  cases given : m.argument? with
  | none =>
      cases given' : m'.argument? with
      | none => rfl
      | some a =>
          rw [given, given'] at same
          exact absurd same.symm (call'.argument a given').1
  | some a =>
      cases given' : m'.argument? with
      | none =>
          rw [given, given'] at same
          exact absurd same (call.argument a given).1
      | some b =>
          rw [given, given'] at same
          exact congrArg some same

theorem call_append_inj {m m' : Modifier} (call : SoundCall ')' m) (call' : SoundCall ')' m')
    (same : m.call.toList ++ rest = m'.call.toList ++ rest') : m = m' ∧ rest = rest' := by
  have shape : ∀ (n : Modifier) (r : List Char), n.call.toList ++ r =
      '-' :: '>' :: (n.name.toList ++ '(' :: ((n.argument?.getD "").toList ++ ')' :: r)) := by
    intro n r
    simp [Modifier.call]
  rw [shape, shape, List.cons_inj_right, List.cons_inj_right] at same
  obtain ⟨names, behind⟩ := append_sep_inj (not_mem_of_isIdentifier call.name (by decide))
    (not_mem_of_isIdentifier call'.name (by decide)) same
  obtain ⟨arguments, behind⟩ :=
    append_sep_inj call.not_mem_argument call'.not_mem_argument behind
  exact ⟨congrArg₂ Modifier.mk (String.toList_injective names)
    (argument?_inj call call' (String.toList_injective arguments)), behind⟩

theorem call_ne_semicolon (m : Modifier) : m.call.toList ++ rest ≠ ';' :: rest' := by
  simp [Modifier.call]

theorem calls_cons_append (m : Modifier) (calls : List Modifier) (rest : List Char) :
    (String.join ((m :: calls).map Modifier.call)).toList ++ rest =
      m.call.toList ++ ((String.join (calls.map Modifier.call)).toList ++ rest) := by
  simp

/-- The calls of a statement end with the first semicolon that stands in place of a call. -/
theorem calls_append_inj {calls calls' : List Modifier} (each : ∀ m ∈ calls, SoundCall ')' m)
    (each' : ∀ m ∈ calls', SoundCall ')' m)
    (same : (String.join (calls.map Modifier.call)).toList ++ ';' :: rest =
      (String.join (calls'.map Modifier.call)).toList ++ ';' :: rest') :
    calls = calls' ∧ rest = rest' := by
  induction calls generalizing calls' with
  | nil =>
      cases calls' with
      | nil => exact ⟨rfl, (List.cons.inj same).2⟩
      | cons m' calls' =>
          rw [calls_cons_append] at same
          exact absurd same.symm (call_ne_semicolon m')
  | cons m calls ih =>
      rw [calls_cons_append] at same
      cases calls' with
      | nil => exact absurd same (call_ne_semicolon m)
      | cons m' calls' =>
          rw [calls_cons_append] at same
          rw [List.forall_mem_cons] at each each'
          obtain ⟨rfl, others⟩ := call_append_inj each.1 each'.1 same
          obtain ⟨rfl, behind⟩ := ih each.2 each'.2 others
          exact ⟨rfl, behind⟩

theorem foreignKey_append (k : ForeignKey) (name : String) (rest : List Char) :
    (k.statement i name).toList ++ rest =
      (opening i "foreign" name).toList ++ ("->references('".toList ++ (k.column.toList ++
        '\'' :: (")->on('".toList ++ (k.table.toList ++ '\'' :: (");\n\n".toList ++ rest))))) := by
  rw [ForeignKey.statement_eq]
  simp

theorem foreignKey_append_inj {k k' : ForeignKey} {name : String} (sound : k.Sound)
    (sound' : k'.Sound)
    (same : (k.statement i name).toList ++ rest = (k'.statement i name).toList ++ rest') :
    k = k' ∧ rest = rest' := by
  rw [foreignKey_append, foreignKey_append, List.append_cancel_left_eq,
    List.append_cancel_left_eq] at same
  obtain ⟨columns, behind⟩ := append_sep_inj (not_mem_of_isIdentifier sound.column (by decide))
    (not_mem_of_isIdentifier sound'.column (by decide)) same
  rw [List.append_cancel_left_eq] at behind
  obtain ⟨tables, behind⟩ := append_sep_inj (not_mem_of_isIdentifier sound.table (by decide))
    (not_mem_of_isIdentifier sound'.table (by decide)) behind
  rw [List.append_cancel_left_eq] at behind
  exact ⟨congrArg₂ ForeignKey.mk (String.toList_injective columns)
    (String.toList_injective tables), behind⟩

/-! ## All statements -/

/-- The text of the readings with an empty line behind it. -/
def lines (i : Indent) (readings : List Reading) (rest : List Char) : List Char :=
  (String.join (readings.map fun r => r.statement i)).toList ++ '\n' :: rest

theorem lines_nil : lines i [] rest = '\n' :: rest := rfl

theorem lines_cons (r : Reading) (readings : List Reading) :
    lines i (r :: readings) rest =
      (opening i r.type r.name).toList ++ ((String.join (r.calls.map Modifier.call)).toList ++
        ';' :: '\n' :: ((r.constraint i).toList ++ lines i readings rest)) := by
  simp [lines, statement]

/-- No constraint starts where other columns are declared. -/
theorem constraint_ne_lines {k : ForeignKey} {name : String} {readings : List Reading}
    (ident : isIdentifier name = true) (sound : ∀ r ∈ readings, r.Sound ')')
    (new : name ∉ readings.map Reading.name) :
    (k.statement i name).toList ++ rest ≠ lines i readings rest' := by
  intro same
  rw [foreignKey_append] at same
  cases readings with
  | nil =>
      rw [lines_nil] at same
      exact opening_append_ne_lineBreak same
  | cons r readings =>
      rw [List.forall_mem_cons] at sound
      rw [lines_cons] at same
      have names := (opening_append_inj (by decide) sound.1.type ident sound.1.name same).2.1
      exact new (by simp [names])

/-- Whether a constraint follows is told by the text, and which it is. -/
theorem constraint_append_inj {r r' : Reading} {readings readings' : List Reading}
    (sound : r.Sound ')') (sound' : r'.Sound ')') (others : ∀ s ∈ readings, s.Sound ')')
    (others' : ∀ s ∈ readings', s.Sound ')')
    (new : r.name ∉ readings.map Reading.name) (new' : r.name ∉ readings'.map Reading.name)
    (names : r.name = r'.name)
    (same : (r.constraint i).toList ++ lines i readings rest =
      (r'.constraint i).toList ++ lines i readings' rest') :
    r.foreignKey? = r'.foreignKey? ∧ lines i readings rest = lines i readings' rest' := by
  cases key : r.foreignKey? with
  | none =>
      rw [constraint_of_none key, String.toList_empty, List.nil_append] at same
      cases key' : r'.foreignKey? with
      | none =>
          rw [constraint_of_none key', String.toList_empty, List.nil_append] at same
          exact ⟨rfl, same⟩
      | some k' =>
          rw [constraint_of_some key', ← names] at same
          exact absurd same.symm (constraint_ne_lines sound.name others new)
  | some k =>
      rw [constraint_of_some key] at same
      cases key' : r'.foreignKey? with
      | none =>
          rw [constraint_of_none key', String.toList_empty, List.nil_append] at same
          exact absurd same (constraint_ne_lines sound.name others' new')
      | some k' =>
          rw [constraint_of_some key', ← names] at same
          obtain ⟨rfl, behind⟩ :=
            foreignKey_append_inj (sound.foreignKey k key) (sound'.foreignKey k' key') same
          exact ⟨rfl, behind⟩

/-- Readings of distinct names are told by their text. -/
theorem lines_inj {readings readings' : List Reading} (sound : ∀ r ∈ readings, r.Sound ')')
    (sound' : ∀ r ∈ readings', r.Sound ')') (names : (readings.map Reading.name).Nodup)
    (names' : (readings'.map Reading.name).Nodup)
    (same : lines i readings rest = lines i readings' rest') : readings = readings' := by
  induction readings generalizing readings' with
  | nil =>
      cases readings' with
      | nil => rfl
      | cons r' readings' =>
          rw [lines_nil, lines_cons] at same
          exact absurd same.symm opening_append_ne_lineBreak
  | cons r readings ih =>
      cases readings' with
      | nil =>
          rw [lines_nil, lines_cons] at same
          exact absurd same opening_append_ne_lineBreak
      | cons r' readings' =>
          rw [List.forall_mem_cons] at sound sound'
          rw [List.map_cons, List.nodup_cons] at names names'
          rw [lines_cons, lines_cons] at same
          obtain ⟨type, name, behind⟩ :=
            opening_append_inj sound.1.type sound'.1.type sound.1.name sound'.1.name same
          obtain ⟨calls, behind⟩ := calls_append_inj sound.1.calls sound'.1.calls behind
          rw [List.cons_inj_right] at behind
          obtain ⟨key, others⟩ := constraint_append_inj sound.1 sound'.1 sound.2 sound'.2 names.1
            (name ▸ names'.1) name behind
          have first : r = r' := by
            cases r
            cases r'
            rw [Reading.mk.injEq]
            exact ⟨name, type, calls, key⟩
          rw [first, ih sound.2 sound'.2 names.2 names'.2 others]

end Reading

/-! ## Blocks -/

variable {i : Indent}

theorem toList_block (columns : List Column) (i : Indent) :
    (block columns i).toList =
      (if columns.any Column.isPrimary then "" else defaultKeyStatement i).toList ++
        Reading.lines i (columns.map Column.reading)
          (i.text ++ timestampsStatement ++ "\n").toList := by
  rw [block_eq_readings, Reading.lines]
  simp

/-- A primary key is told by a call of its column. -/
theorem chain_ne_nil_of_isPrimary {c : Column} (primary : c.isPrimary = true) : c.chain ≠ [] := by
  have index : c.index = .primary := of_decide_eq_true primary
  simp [Column.chain, index, IndexKind.isIndexed, IndexKind.primary, IndexKind.none]

theorem defaultKey_append (i : Indent) (rest : List Char) :
    (defaultKeyStatement i).toList ++ rest =
      (opening i "increments" "id").toList ++ ';' :: '\n' :: '\n' :: rest := by
  rw [defaultKeyStatement_eq]
  simp

/-- The default key is not the column of any field: an empty line follows it, with which the block
would end behind its first column, one without calls. -/
theorem defaultKey_ne_lines {columns : List Column} {rest rest' : List Char}
    (sound : ∀ c ∈ columns, c.reading.Sound ')') (primary : columns.any Column.isPrimary = true) :
    (defaultKeyStatement i).toList ++ rest ≠
      Reading.lines i (columns.map Column.reading) rest' := by
  intro same
  rw [defaultKey_append] at same
  cases columns with
  | nil =>
      rw [List.map_nil, Reading.lines_nil] at same
      exact opening_append_ne_lineBreak same
  | cons c columns =>
      rw [List.forall_mem_cons] at sound
      rw [List.map_cons, Reading.lines_cons] at same
      have behind := (opening_append_inj (by decide) sound.1.type (by decide) sound.1.name same).2.2
      have none : ∀ m ∈ ([] : List Modifier), Reading.SoundCall ')' m := by simp
      obtain ⟨calls, behind⟩ := Reading.calls_append_inj none sound.1.calls behind
      rw [List.cons_inj_right] at behind
      cases key : c.reading.foreignKey? with
      | some k =>
          rw [Reading.constraint_of_some key, Reading.foreignKey_append] at behind
          exact opening_append_ne_lineBreak behind.symm
      | none =>
          rw [Reading.constraint_of_none key, String.toList_empty, List.nil_append] at behind
          cases columns with
          | nil =>
              rw [List.any_cons, List.any_nil, Bool.or_false] at primary
              exact chain_ne_nil_of_isPrimary primary calls.symm
          | cons d columns =>
              rw [List.map_cons, Reading.lines_cons] at behind
              exact opening_append_ne_lineBreak behind.symm

/-- Equal blocks have the default key alike, and equal readings. -/
theorem block_inj {columns columns' : List Column} (sound : ∀ c ∈ columns, c.reading.Sound ')')
    (sound' : ∀ c ∈ columns', c.reading.Sound ')') (names : (columns.map Column.name).Nodup)
    (names' : (columns'.map Column.name).Nodup) (same : block columns i = block columns' i) :
    columns.any Column.isPrimary = columns'.any Column.isPrimary ∧
      columns.map Column.reading = columns'.map Column.reading := by
  have nameOf : ∀ ds : List Column, (ds.map Column.reading).map Reading.name = ds.map Column.name :=
    fun ds => List.map_map
  have inj : ∀ {rest rest' : List Char}, Reading.lines i (columns.map Column.reading) rest =
      Reading.lines i (columns'.map Column.reading) rest' →
      columns.map Column.reading = columns'.map Column.reading :=
    fun equal => Reading.lines_inj (List.forall_mem_map.mpr sound) (List.forall_mem_map.mpr sound')
      (nameOf columns ▸ names) (nameOf columns' ▸ names') equal
  have texts := congrArg String.toList same
  rw [toList_block, toList_block] at texts
  cases key : columns.any Column.isPrimary with
  | true =>
      rw [key, if_pos rfl, String.toList_empty, List.nil_append] at texts
      cases key' : columns'.any Column.isPrimary with
      | true =>
          rw [key', if_pos rfl, String.toList_empty, List.nil_append] at texts
          exact ⟨rfl, inj texts⟩
      | false =>
          rw [key', if_neg Bool.false_ne_true] at texts
          exact absurd texts.symm (defaultKey_ne_lines sound key)
  | false =>
      rw [key, if_neg Bool.false_ne_true] at texts
      cases key' : columns'.any Column.isPrimary with
      | true =>
          rw [key', if_pos rfl, String.toList_empty, List.nil_append] at texts
          exact absurd texts (defaultKey_ne_lines sound' key')
      | false =>
          rw [key', if_neg Bool.false_ne_true, List.append_cancel_left_eq] at texts
          exact ⟨rfl, inj texts⟩

/-! ## Models -/

/-- Whether two fields say the same, however they spell it: one name and one type, the same calls,
from modifiers and index together, and the same foreign key. -/
structure Field.SaysTheSame (f g : Field) : Prop where
  name : f.name = g.name
  type : f.type = g.type
  directives : ∃ c d, f.column = .ok c ∧ g.column = .ok d ∧ c.chain = d.chain ∧
    c.foreignKey? = d.foreignKey?

theorem Model.forall₂_column {m : Model} {columns : List Column} (found : m.columns = .ok columns) :
    List.Forall₂ (fun f c => f.column = .ok c) m.fields columns := by
  unfold Model.columns at found
  obtain ⟨_, _, each⟩ := bind_eq_ok_iff.mp found
  exact mapM_eq_ok_iff.mp each

theorem saysTheSame_iff {f g : Field} {c d : Column} (hc : f.column = .ok c)
    (hd : g.column = .ok d) : f.SaysTheSame g ↔ c.reading = d.reading := by
  have first := (Field.column_eq_ok_iff.mp hc).2
  have second := (Field.column_eq_ok_iff.mp hd).2
  rw [Column.reading, Column.reading, Reading.mk.injEq, first.name, first.type, second.name,
    second.type]
  constructor
  · rintro ⟨name, type, c', d', hc', hd', chain, key⟩
    obtain rfl := Except.ok.inj (hc.symm.trans hc')
    obtain rfl := Except.ok.inj (hd.symm.trans hd')
    exact ⟨name, type, chain, key⟩
  · rintro ⟨name, type, chain, key⟩
    exact ⟨name, type, c, d, hc, hd, chain, key⟩

theorem forall₂_saysTheSame_iff {fields fields' : List Field} {columns columns' : List Column}
    (each : List.Forall₂ (fun f c => f.column = .ok c) fields columns)
    (each' : List.Forall₂ (fun f c => f.column = .ok c) fields' columns') :
    List.Forall₂ Field.SaysTheSame fields fields' ↔
      columns.map Column.reading = columns'.map Column.reading := by
  induction each generalizing fields' columns' with
  | nil => cases each' <;> simp
  | cons first _ ih =>
      cases each' with
      | nil => simp
      | cons first' each' =>
          rw [List.forall₂_cons, List.map_cons, List.map_cons, List.cons.injEq,
            saysTheSame_iff first first', ih each']

/--
The block of a model can be read back: with no closing parenthesis in an argument, two models have
one block exactly if their fields say the same, position by position, and both or neither of them
have the default key.
-/
theorem block_eq_iff {m m' : Model} {i : Indent} {text text' : String}
    (emitted : m.block i = .ok text) (emitted' : m'.block i = .ok text')
    (closed : m.ArgumentsAvoid ')') (closed' : m'.ArgumentsAvoid ')') :
    text = text' ↔
      List.Forall₂ Field.SaysTheSame m.fields m'.fields ∧ m.hasPrimary = m'.hasPrimary := by
  unfold Model.block at emitted emitted'
  obtain ⟨columns, found, emitted⟩ := bind_eq_ok_iff.mp emitted
  obtain ⟨columns', found', emitted'⟩ := bind_eq_ok_iff.mp emitted'
  obtain rfl := Except.ok.inj emitted
  obtain rfl := Except.ok.inj emitted'
  obtain ⟨valid, names, primary⟩ := Model.columns_eq_ok found
  obtain ⟨valid', names', primary'⟩ := Model.columns_eq_ok found'
  rw [forall₂_saysTheSame_iff (Model.forall₂_column found) (Model.forall₂_column found'),
    ← primary, ← primary']
  constructor
  · intro same
    have sound := Model.reading_sound found closed
    have sound' := Model.reading_sound found' closed'
    obtain ⟨key, readings⟩ := block_inj sound sound' (names ▸ Model.nodup_names valid)
      (names' ▸ Model.nodup_names valid') same
    exact ⟨readings, key⟩
  · rintro ⟨readings, key⟩
    apply String.toList_injective
    rw [toList_block, toList_block, readings, key]

/-- Two spellings of one block: white space and a modifier `unique`, or an index. -/
theorem block_eq_iff_spellings :
    let m : Model := ⟨[{ Field.plain "user_id" "integer" with
      modifiers := " default , 0 : unique ", foreignKey := " id : users " }]⟩
    let m' : Model := ⟨[{ Field.plain "user_id" "integer" with
      modifiers := "default,0", index := .ofText "unique", foreignKey := "id:users" }]⟩
    let text := "$table->increments('id');\n\n$table->integer('user_id')->default(0)->unique();\n" ++
      "$table->foreign('user_id')->references('id')->on('users');\n\n\n$table->timestamps();\n"
    m.block (.atLevel 0) = .ok text ∧ m'.block (.atLevel 0) = .ok text ∧
      m.ArgumentsAvoid ')' ∧ m'.ArgumentsAvoid ')' ∧
      List.Forall₂ Field.SaysTheSame m.fields m'.fields := by
  intro m m' text
  have emitted : m.block (.atLevel 0) = .ok text := by decide +kernel
  have emitted' : m'.block (.atLevel 0) = .ok text := by decide +kernel
  have read : Modifier.parse "user_id" " default , 0 : unique " =
      .ok [⟨"default", some "0"⟩, ⟨"unique", none⟩] := by
    decide +kernel
  have read' : Modifier.parse "user_id" "default,0" = .ok [⟨"default", some "0"⟩] := by
    decide +kernel
  have closed : m.ArgumentsAvoid ')' := by
    intro f mem modifiers given
    rw [List.mem_singleton.mp mem] at given
    rw [← Except.ok.inj (read.symm.trans given)]
    decide
  have closed' : m'.ArgumentsAvoid ')' := by
    intro f mem modifiers given
    rw [List.mem_singleton.mp mem] at given
    rw [← Except.ok.inj (read'.symm.trans given)]
    decide
  have alike := (block_eq_iff emitted emitted' closed closed').mp rfl
  exact ⟨emitted, emitted', closed, closed', alike.1⟩

/-- An argument with a closing parenthesis in it may look like two calls. -/
example : Model.block ⟨[{ Field.plain "a" "string" with modifiers := "b,0)->c(1" }]⟩ (.atLevel 3) =
    Model.block ⟨[{ Field.plain "a" "string" with modifiers := "b,0:c,1" }]⟩ (.atLevel 3) := by
  decide +kernel

end ModelMigration
