import ModelMigration.Proofs.Template.Filling
import ModelMigration.Proofs.Template.Placeholders
import ModelMigration.Proofs.Text.Identifiers
import ModelMigration.Proofs.Text.Lowering

/-!
# Rendering a migration

The built-in template is regular, and neither the name of a table nor, if the model's name has none,
the values in front of the statements bring in an open brace. So the statements of a migration stand
in it as they are, whatever the arguments of modifiers look like.
-/

namespace ModelMigration

open Text

/-- A checked configuration names no table with a mark in it, nor does a name without one. -/
theorem not_mem_tableName {config : Config} {name : String} {mark : Char}
    (valid : config.validate = .ok ()) (free : mark ∉ name.toList)
    (other : continuesIdentifier mark = false) (form : isLowerForm mark = false) :
    mark ∉ (tableName config name).toList := by
  unfold Config.validate at valid
  split at valid
  · contradiction
  · unfold tableName
    cases configured : config.table? with
    | none =>
        refine not_mem_lowered ?_ form
        rw [String.toList_append, List.mem_append, not_or]
        exact ⟨free, not_mem_of_isIdentifier (by decide) other⟩
    | some table =>
        rw [configured] at valid
        refine not_mem_lowered ?_ form
        by_cases identifier : isIdentifier table = true
        · exact not_mem_of_isIdentifier identifier other
        · simp [identifier] at valid

namespace Template

/-- The built-in template of a migration. -/
def migration : Template where
  pieces := [
    .literal (String.intercalate "\n" [
      "<?php",
      "",
      "use Illuminate\\Database\\Schema\\Blueprint;",
      "use Illuminate\\Database\\Migrations\\Migration;",
      "",
      "class Create"]),
    .token "class_name",
    .literal (String.intercalate "\n" [
      "sTable extends Migration",
      "\x7b",
      "    /**",
      "     * Run the migrations.",
      "     *",
      "     * @return void",
      "     */",
      "    public function up()",
      "    \x7b",
      "        Schema::create('"]),
    .token "table_name",
    .literal "', function (Blueprint $table) \x7b\n",
    .token "fields",
    .literal (String.intercalate "\n" [
      "        \x7d);",
      "    \x7d",
      "",
      "    /**",
      "     * Reverse the migrations.",
      "     *",
      "     * @return void",
      "     */",
      "    public function down()",
      "    \x7b",
      "        Schema::drop('"]),
    .token "table_name",
    .literal "');\n    \x7d\n\x7d\n"]
  plain := by
    -- Line after line, which is much faster than with the text as a whole.
    simp only [List.forall_mem_cons, Piece.Plain, String.toList_intercalate, List.map_cons,
      List.map_nil, List.not_mem_nil, false_implies, implies_true, and_true]
    decide +kernel
  apart := by
    simp only [List.isChain_cons_cons, Piece.Precedes, String.toList_intercalate, List.map_cons,
      List.map_nil, List.isChain_singleton, true_and, and_true]
    decide +kernel

theorem text_migration : migration.text = Stub.migration.text := by
  decide +kernel

/-- What is put in depends on nothing but the value of each name. -/
theorem substitute_congr (t : Template) {p q : Placeholders} (same : p.get? = q.get?)
    (free : ∀ pair ∈ p.values ++ q.values, Braceless pair.1 ∧ '\x7b' ∉ pair.2.toList) :
    substitute t.text p = substitute t.text q := by
  have left : ∀ pair ∈ p.values, Braceless pair.1 ∧ '\x7b' ∉ pair.2.toList :=
    fun pair mem => free pair (List.mem_append_left _ mem)
  have right : ∀ pair ∈ q.values, Braceless pair.1 ∧ '\x7b' ∉ pair.2.toList :=
    fun pair mem => free pair (List.mem_append_right _ mem)
  calc substitute t.text p
      = t.filled p.get? := t.substitute_text (fun pair mem => (left pair mem).1)
          fun pair mem => (left pair (List.mem_of_mem_dropLast mem)).2
    _ = t.filled q.get? := by rw [same]
    _ = substitute t.text q := (t.substitute_text (fun pair mem => (right pair mem).1)
          fun pair mem => (right pair (List.mem_of_mem_dropLast mem)).2).symm

theorem substitute_ofList_of_perm (t : Template) {pairs others : List (String × String)}
    (perm : pairs.Perm others) (names : (pairs.map Prod.fst).Nodup)
    (free : ∀ pair ∈ pairs, Braceless pair.1 ∧ '\x7b' ∉ pair.2.toList) :
    substitute t.text (.ofList pairs) = substitute t.text (.ofList others) := by
  refine t.substitute_congr (Placeholders.get?_ofList_of_perm perm names) fun pair mem => ?_
  rcases List.mem_append.mp mem with left | right
  · exact free pair (Placeholders.mem_of_mem_ofList left)
  · exact free pair (perm.mem_iff.mpr (Placeholders.mem_of_mem_ofList right))

theorem renderMigration_text (t : Template) {stub : Stub} {name : String} {config : Config}
    (text : stub.text = t.text) (valid : config.validate = .ok ()) (free : '\x7b' ∉ name.toList)
    (model : Model) (i : Indent) :
    renderMigration stub name model config i = (model.block i).map fun fields =>
      t.filled ([("class_name", name), ("table_name", tableName config name),
        ("fields", fields)].lookup ·) := by
  have put : ∀ fields, stub.render (migrationValues name (tableName config name) fields) =
      t.filled ([("class_name", name), ("table_name", tableName config name),
        ("fields", fields)].lookup ·) := by
    intro fields
    have values := migrationValues_values name (tableName config name) fields
    have names : ∀ pair ∈ (migrationValues name (tableName config name) fields).values,
        Braceless pair.1 := by
      rw [values]
      simp only [List.forall_mem_cons]
      decide
    rw [Stub.render, text, t.substitute_text names]
    · change t.filled ((migrationValues name _ fields).values.lookup ·) = _
      rw [values]
    · rw [values]
      simp [free, not_mem_tableName valid free (by decide) (by decide +kernel)]
  unfold renderMigration
  cases model.block i with
  | error error => rfl
  | ok fields => exact congrArg Except.ok (put fields)

/--
Inserted text is never searched again: if only the last value may have an open brace, all tokens are
replaced at once. So the order of the values does not matter if none has one, and a migration has
its names and statements in it as they are, with the built-in template and every regular one.
-/
theorem substitution_never_rescans (t : Template) :
    (∀ p : Placeholders, (∀ pair ∈ p.values, Braceless pair.1) →
      (∀ pair ∈ p.values.dropLast, '\x7b' ∉ pair.2.toList) →
      substitute t.text p = t.filled p.get?) ∧
    (∀ p q : Placeholders, p.get? = q.get? →
      (∀ pair ∈ p.values ++ q.values, Braceless pair.1 ∧ '\x7b' ∉ pair.2.toList) →
      substitute t.text p = substitute t.text q) ∧
    (∀ pairs others : List (String × String), pairs.Perm others → (pairs.map Prod.fst).Nodup →
      (∀ pair ∈ pairs, Braceless pair.1 ∧ '\x7b' ∉ pair.2.toList) →
      substitute t.text (.ofList pairs) = substitute t.text (.ofList others)) ∧
    migration.text = Stub.migration.text ∧
    ∀ (stub : Stub) (name : String) (model : Model) (config : Config) (i : Indent),
      stub.text = t.text → config.validate = .ok () → '\x7b' ∉ name.toList →
      renderMigration stub name model config i = (model.block i).map fun fields =>
        t.filled ([("class_name", name), ("table_name", tableName config name),
          ("fields", fields)].lookup ·) :=
  ⟨fun _ names free => t.substitute_text names free,
    fun _ _ same free => t.substitute_congr same free,
    fun _ _ perm names free => t.substitute_ofList_of_perm perm names free, text_migration,
    fun _ _ model _ i text valid free => t.renderMigration_text text valid free model i⟩

/-- A value with a token in front of the last one would be searched again. -/
example : substitute (token "a" ++ token "b") (.ofList [("a", token "b"), ("b", "x")]) = "xx" := by
  decide +kernel

/-- Arguments that look like tokens stay, in the statements and in the last of several values. -/
theorem substitution_never_rescans_arguments :
    let t : Template := ⟨[.token "fields", .literal "// ", .token "table_name", .token "note"],
      by decide, by decide⟩
    let p := Placeholders.ofList [("table_name", "posts"), ("fields", "\x7b\x7btable_name\x7d\x7d")]
    let q := Placeholders.ofList [("note", "b"), ("table_name", "a")]
    let model : Model :=
      ⟨[{ Field.plain "a" "string" with modifiers := "default,\x7b\x7btable_name\x7d\x7d" }]⟩
    let config : Config := ⟨some "Entries", "migrations"⟩
    substitute t.text p = "\x7b\x7btable_name\x7d\x7d// posts\x7b\x7bnote\x7d\x7d" ∧
      substitute t.text q =
        substitute t.text (.ofList [("table_name", "a"), ("note", "c"), ("note", "b")]) ∧
      substitute t.text q = substitute t.text (.ofList [("table_name", "a"), ("note", "b")]) ∧
      renderMigration ⟨"short", t.text⟩ "Post" model config (.atLevel 0) =
        .ok ("$table->increments('id');\n\n" ++
          "$table->string('a')->default(\x7b\x7btable_name\x7d\x7d);\n\n" ++
          "$table->timestamps();\n// entries\x7b\x7bnote\x7d\x7d") := by
  intro t p q model config
  obtain ⟨once, congr, order, -, rendered⟩ := t.substitution_never_rescans
  have swapped :
      List.Perm [("note", "b"), ("table_name", "a")] [("table_name", "a"), ("note", "b")] :=
    List.Perm.swap _ _ []
  have given : q.get? =
      (Placeholders.ofList [("table_name", "a"), ("note", "c"), ("note", "b")]).get? := by
    have same : Placeholders.ofList [("table_name", "a"), ("note", "c"), ("note", "b")] =
        .ofList [("table_name", "a"), ("note", "b")] := by decide
    rw [same]
    exact Placeholders.get?_ofList_of_perm swapped (by decide)
  refine ⟨(once p (by decide) (by decide)).trans (by decide +kernel), congr q _ given (by decide),
    order _ _ swapped (by decide) (by decide), ?_⟩
  rw [rendered _ "Post" model config _ rfl (by decide +kernel) (by decide)]
  decide +kernel

end Template

end ModelMigration
