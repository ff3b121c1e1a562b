import ModelMigration.Proofs.Columns.Statements
import ModelMigration.Proofs.Extension.SoftDeletes
import ModelMigration.Proofs.Template.Rendering

/-!
# Soft deletes in a rendered migration

In a migration from the built-in template the first timestamps are those that close the statements:
a dollar sign stands at the start of a statement or in the template, and neither goes on as the
timestamps do, not even where a column is of a type with their name.
-/

namespace ModelMigration

open Text Extension

variable {i : Indent}

/-! ## Statements without the timestamps -/

theorem misses_of_not_mem {text : List Char} (free : '$' ∉ text) :
    Misses timestampsStatement.toList text :=
  Misses.of_not_mem free

/-- The timestamps have no column, so no statement with one opens like them. -/
theorem misses_opening {method name : String} (ident : isIdentifier method = true)
    (ident' : isIdentifier name = true) :
    Misses timestampsStatement.toList (opening i method name).toList := by
  have shape : (opening i method name).toList = i.text.toList ++ '$' ::
      ("table->".toList ++ method.toList ++ "('".toList ++ name.toList ++ "')".toList) := by
    simp [opening]
  rw [shape]
  refine (misses_of_not_mem (Indent.not_mem_text (by decide))).append
    (.cons ?_ (misses_of_not_mem ?_))
  · rintro rest ⟨others, same⟩
    have split : timestampsStatement.toList =
        "$table->".toList ++ ("timestamps".toList ++ '(' :: ");".toList) := by decide
    rw [split] at same
    have methods : "timestamps".toList ++ '(' :: (");".toList ++ others) =
        method.toList ++ '(' :: ('\'' :: (name.toList ++ "')".toList ++ rest)) := by
      simpa using same
    have behind := (append_sep_inj (by decide) (not_mem_of_isIdentifier ident (by decide)) methods).2
    have first := congrArg List.head? behind
    simp at first
  · have clear := not_mem_of_isIdentifier ident (c := '$') (by decide)
    have clear' := not_mem_of_isIdentifier ident' (c := '$') (by decide)
    simp [clear, clear']

theorem misses_call {m : Modifier} (call : Reading.SoundCall '$' m) :
    Misses timestampsStatement.toList m.call.toList := by
  have name := not_mem_of_isIdentifier call.name (c := '$') (by decide)
  refine misses_of_not_mem ?_
  simp [Modifier.call, name, call.not_mem_argument]

theorem misses_foreignKey {k : ForeignKey} {name : String} (sound : k.Sound)
    (ident : isIdentifier name = true) :
    Misses timestampsStatement.toList (k.statement i name).toList := by
  have column := not_mem_of_isIdentifier sound.column (c := '$') (by decide)
  have table := not_mem_of_isIdentifier sound.table (c := '$') (by decide)
  rw [ForeignKey.statement_eq]
  simp only [String.append_assoc]
  rw [String.toList_append]
  refine (misses_opening (by decide) ident).append (misses_of_not_mem ?_)
  simp [column, table]

theorem Reading.Sound.misses {r : Reading} (sound : r.Sound '$') :
    Misses timestampsStatement.toList (r.statement i).toList := by
  have calls : Misses timestampsStatement.toList (String.join (r.calls.map Modifier.call)).toList :=
    .join (List.forall_mem_map.mpr fun m mem => misses_call (sound.calls m mem))
  have constraint : Misses timestampsStatement.toList (r.constraint i).toList := by
    cases key : r.foreignKey? with
    | none =>
        rw [Reading.constraint_of_none key]
        exact .nil
    | some k =>
        rw [Reading.constraint_of_some key]
        exact misses_foreignKey (sound.foreignKey k key) sound.name
  unfold Reading.statement
  simp only [String.toList_append]
  exact (((misses_opening sound.type sound.name).append calls).append
    (misses_of_not_mem (by decide))).append constraint

theorem misses_defaultKey : Misses timestampsStatement.toList (defaultKeyStatement i).toList := by
  rw [defaultKeyStatement_eq, String.toList_append]
  exact (misses_opening (by decide) (by decide)).append (misses_of_not_mem (by decide))

/-- The first timestamps of a block are those that close it, on a line of their own. -/
theorem exists_statements {m : Model} {fields : String} (emitted : m.block i = .ok fields)
    (free : m.ArgumentsAvoid '$') :
    ∃ statements : String, fields = statements ++ i.text ++ timestampsStatement ++ "\n" ∧
      Misses timestampsStatement.toList statements.toList ∧
      statements.toList.getLast? = some '\n' := by
  unfold Model.block at emitted
  obtain ⟨columns, found, emitted⟩ := bind_eq_ok_iff.mp emitted
  obtain rfl := Except.ok.inj emitted
  have sound := Model.reading_sound found free
  refine ⟨(if columns.any Column.isPrimary then "" else defaultKeyStatement i) ++
    String.join ((columns.map Column.reading).map fun r => r.statement i) ++ "\n", ?_, ?_, ?_⟩
  · rw [block_eq_readings]
    simp only [String.append_assoc]
  · have key : Misses timestampsStatement.toList
        (if columns.any Column.isPrimary then "" else defaultKeyStatement i).toList := by
      split
      · exact .nil
      · exact misses_defaultKey
    rw [String.toList_append, String.toList_append]
    refine (key.append (.join ?_)).append (misses_of_not_mem (by decide))
    intro text mem
    obtain ⟨r, inReadings, rfl⟩ := List.mem_map.mp mem
    obtain ⟨c, inColumns, rfl⟩ := List.mem_map.mp inReadings
    exact (sound c inColumns).misses
  · simp

/-! ## Migrations without the timestamps -/

/-- The template has a dollar sign in front of the statements, at a parameter that is passed on. -/
theorem misses_parameter :
    Misses timestampsStatement.toList "', function (Blueprint $table) \x7b\n".toList := by
  have split : "', function (Blueprint $table) \x7b\n".toList =
      "', function (Blueprint ".toList ++ '$' :: "table) \x7b\n".toList := by decide
  rw [split]
  refine (misses_of_not_mem (by decide)).append (.cons ?_ (misses_of_not_mem (by decide)))
  rintro rest ⟨others, same⟩
  have behind := congrArg (fun text : List Char => text[6]?) same
  simp [timestampsStatement] at behind

/-- What the built-in template has around the statements does not depend on them, and no timestamps
start in front of them. -/
theorem exists_around_statements {config : Config} {name : String}
    (valid : config.validate = .ok ()) (braces : '\x7b' ∉ name.toList)
    (dollars : '$' ∉ name.toList) :
    ∃ front back : String, Misses timestampsStatement.toList front.toList ∧
      ∀ m i, renderMigration .migration name m config i =
        (m.block i).map fun fields => front ++ fields ++ back := by
  let values := [("class_name", name), ("table_name", tableName config name)]
  let before := Template.migration.pieces.take 5
  let behind := Template.migration.pieces.drop 6
  refine ⟨assembled (before.map (Piece.fill (values.lookup ·))),
    assembled (behind.map (Piece.fill (values.lookup ·))), ?_, fun m i => ?_⟩
  · refine .join (List.forall_mem_map.mpr (List.forall_mem_map.mpr ?_))
    have table := not_mem_tableName valid dollars (by decide) (by decide +kernel)
    change ∀ piece ∈ [_, _, _, _, _], Misses _ _
    simp only [List.forall_mem_cons]
    refine ⟨misses_of_not_mem ?_, misses_of_not_mem dollars, misses_of_not_mem ?_,
      misses_of_not_mem table, misses_parameter, fun _ none => absurd none List.not_mem_nil⟩
    all_goals
      simp only [Piece.fill, Piece.text, String.toList_intercalate, List.map_cons, List.map_nil]
      decide +kernel
  · have whole : Template.migration.pieces = before ++ .token "fields" :: behind := rfl
    have absent : ∀ piece ∈ before, piece ≠ .token "fields" := by decide +kernel
    have absent' : ∀ piece ∈ behind, piece ≠ .token "fields" := by decide +kernel
    rw [Template.migration.renderMigration_text Template.text_migration.symm valid braces]
    refine congrArg (Except.map · (m.block i)) (funext fun fields => ?_)
    change Template.migration.filled ((values ++ [("fields", fields)]).lookup ·) = _
    rw [Template.filled, whole, List.map_append, List.map_cons, assembled_append,
      map_fill_append_singleton absent, map_fill_append_singleton absent', assembled_cons,
      String.append_assoc]
    rfl

/-! ## The closing line -/

theorem Extension.runAll_singleton_of_ok {e : Extension} {text result : String} {m : Model}
    {config : Config} (applied : e.apply text m config = .ok result) :
    runAll m config [e] text = .ok result := by
  rw [runAll, run, applied]
  rfl

/-- The line of the first timestamps in a migration is the last line of its statements. -/
theorem timestampsLine_of_statements {front statements back : String}
    (clear : Misses timestampsStatement.toList front.toList)
    (misses : Misses timestampsStatement.toList statements.toList)
    (last : statements.toList.getLast? = some '\n') :
    TimestampsLine (front ++ (statements ++ i.text ++ timestampsStatement ++ "\n") ++ back)
      (front ++ statements) i.text ("\n" ++ back) where
  cut := by
    have blanks : Misses timestampsStatement.toList i.text.toList :=
      misses_of_not_mem (Indent.not_mem_text (by decide))
    have all := (clear.append misses).append blanks
    have cut : FirstCut timestampsStatement.toList (_ ++ _ ++ ("\n" ++ back).toList) _ _ :=
      all.firstCut (by decide)
    simpa using cut
  line := Indent.not_mem_text (by decide)
  ends := .inr (by simp [last])

/--
Soft deletes close the statements of a migration: with a checked configuration, a model whose
arguments have no dollar sign and a name without one and without an open brace, the migration from
the built-in template is the statements between two texts that do not depend on them, and afterwards
it has one more line, right behind the timestamps that close the statements and indented like them.
-/
theorem soft_deletes_close_statements {config : Config} {name : String}
    (valid : config.validate = .ok ()) (braces : '\x7b' ∉ name.toList)
    (dollars : '$' ∉ name.toList) :
    ∃ front back : String, ∀ (m : Model) (i : Indent) (fields : String), m.block i = .ok fields →
      m.ArgumentsAvoid '$' →
      ∃ statements : String, EndsLine statements.toList ∧
        fields = statements ++ i.text ++ timestampsStatement ++ "\n" ∧
        renderMigration .migration name m config i = .ok (front ++ fields ++ back) ∧
        (renderMigration .migration name m config i >>= runAll m config [softDeletes]) =
          .ok (front ++ fields ++ (i.text ++ softDeletesStatement ++ "\n") ++ back) := by
  obtain ⟨front, back, clear, rendered⟩ := exists_around_statements valid braces dollars
  refine ⟨front, back, fun m i fields emitted free => ?_⟩
  obtain ⟨statements, rfl, misses, last⟩ := exists_statements emitted free
  have text := rendered m i
  rw [emitted] at text
  refine ⟨statements, .inr last, rfl, text, ?_⟩
  rw [text]
  refine (runAll_singleton_of_ok
    (softDeletes_of_line (timestampsLine_of_statements clear misses last))).trans ?_
  simp only [String.append_assoc]

/-- A column of a type that is called like the timestamps does not move the line. -/
theorem soft_deletes_close_statements_timestamps :
    let config : Config := ⟨none, "migrations"⟩
    let m : Model := ⟨[{ Field.plain "at" "timestamps" with modifiers := "default,0" }]⟩
    let fields := "    $table->increments('id');\n\n    $table->timestamps('at')->default(0);\n" ++
      "\n    $table->timestamps();\n"
    ∃ front back : String,
      renderMigration .migration "Post" m config (.atLevel 1) = .ok (front ++ fields ++ back) ∧
      (renderMigration .migration "Post" m config (.atLevel 1) >>= runAll m config [softDeletes]) =
        .ok (front ++ fields ++ "    $table->softDeletes();\n" ++ back) := by
  intro config m fields
  have emitted : m.block (.atLevel 1) = .ok fields := by decide +kernel
  have read : Modifier.parse "at" "default,0" = .ok [⟨"default", some "0"⟩] := by decide +kernel
  have free : m.ArgumentsAvoid '$' := by
    intro f mem modifiers given
    rw [List.mem_singleton.mp mem] at given
    rw [← Except.ok.inj (read.symm.trans given)]
    decide
  have valid : config.validate = .ok () := by decide +kernel
  have braces : '\x7b' ∉ "Post".toList := by decide
  obtain ⟨front, back, each⟩ := soft_deletes_close_statements valid braces (by decide)
  obtain ⟨_, -, -, text, closed⟩ := each m (.atLevel 1) fields emitted free
  exact ⟨front, back, text, closed⟩

end ModelMigration
