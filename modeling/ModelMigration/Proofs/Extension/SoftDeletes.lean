import Mathlib.Data.List.DropRight
import ModelMigration.Extension
import ModelMigration.Proofs.Text.FirstOccurrence

/-!
# What soft deletes add

The statement goes behind the first timestamps, on a line of its own, after what the line of the
timestamps starts with. So it is all that is added where this line starts with white space; other
statements in front of the timestamps are there twice afterwards.
-/

namespace ModelMigration.Extension

open Text

/-! ## Starts of lines -/

/-- Whether a line can start behind a text. -/
def EndsLine (text : List Char) : Prop := text = [] ∨ text.getLast? = some '\n'

theorem lastLine_append {before start : List Char} (line : '\n' ∉ start) (ends : EndsLine before) :
    lastLine (before ++ start) = start := by
  have all : ∀ c ∈ start.reverse, (decide (c ≠ '\n')) = true := by
    intro c mem
    rw [decide_eq_true_eq]
    rintro rfl
    exact line (List.mem_reverse.mp mem)
  have none : before.reverse.takeWhile (· ≠ '\n') = [] := by
    rcases ends with rfl | last
    · rfl
    · obtain ⟨others, rfl⟩ := List.getLast?_eq_some_iff.mp last
      simp
  rw [lastLine, List.reverse_append, List.takeWhile_append_of_pos all, none, List.append_nil,
    List.reverse_reverse]

theorem exists_lastLine (text : List Char) :
    ∃ before, text = before ++ lastLine text ∧ '\n' ∉ lastLine text ∧ EndsLine before := by
  refine ⟨text.rdropWhile (· ≠ '\n'), List.rdropWhile_append_rtakeWhile.symm, ?_, ?_⟩
  · intro mem
    have other := List.mem_rtakeWhile_imp mem
    simp at other
  · by_cases none : text.rdropWhile (· ≠ '\n') = []
    · exact .inl none
    · right
      have last := List.rdropWhile_last_not _ text none
      rw [List.getLast?_eq_some_getLast none]
      simpa using last

/-! ## The line of the timestamps -/

/-- What stands around the first timestamps of a text: the lines in front of theirs, the start of
theirs, and what follows. -/
structure TimestampsLine (text before start rest : String) : Prop where
  cut : FirstCut timestampsStatement.toList text.toList (before ++ start).toList rest.toList
  line : '\n' ∉ start.toList
  ends : EndsLine before.toList

variable {text before start rest : String} {m : Model} {config : Config}

theorem softDeletes_of_line (line : TimestampsLine text before start rest) :
    softDeletes.apply text m config = .ok (before ++ start ++ timestampsStatement ++ "\n" ++
      start ++ softDeletesStatement ++ rest) := by
  have last : lastLine (before ++ start).toList = start.toList := by
    rw [String.toList_append]
    exact lastLine_append line.line line.ends
  simp only [softDeletes, cut?_eq_some_iff.mpr line.cut, last]
  apply congrArg Except.ok
  apply String.toList_injective
  simp

theorem exists_line_of_occurrence (occurs : timestampsStatement.toList <:+: text.toList) :
    ∃ before start rest, TimestampsLine text before start rest := by
  obtain ⟨⟨front, rest⟩, found⟩ :=
    Option.ne_none_iff_exists'.mp fun none => cut?_eq_none_iff.mp none occurs
  obtain ⟨before, whole, line, ends⟩ := exists_lastLine front
  refine ⟨String.ofList before, String.ofList (lastLine front), String.ofList rest, ?_, ?_, ?_⟩
  · rw [String.toList_append, String.toList_ofList, String.toList_ofList, String.toList_ofList,
      ← whole]
    exact cut?_eq_some_iff.mp found
  · rwa [String.toList_ofList]
  · rwa [String.toList_ofList]

theorem softDeletes_of_no_occurrence (none : ¬ timestampsStatement.toList <:+: text.toList) :
    softDeletes.apply text m config =
      .error (.extension "soft-deletes" "migration has no timestamps statement") := by
  simp only [softDeletes, cut?_eq_none_iff.mpr none]

/-- Whether a result is the text with the statement added, behind the first timestamps and nothing
but white space on a new line. -/
def AddsStatement (text result : String) : Prop :=
  ∃ front blank rest : String,
    FirstCut timestampsStatement.toList text.toList front.toList rest.toList ∧
    isBlankText blank = true ∧
    result = front ++ timestampsStatement ++ "\n" ++ blank ++ softDeletesStatement ++ rest

theorem TimestampsLine.addsStatement_iff (line : TimestampsLine text before start rest) :
    AddsStatement text (before ++ start ++ timestampsStatement ++ "\n" ++ start ++
      softDeletesStatement ++ rest) ↔ isBlankText start = true := by
  constructor
  · rintro ⟨front, blank, others, cut, white, same⟩
    obtain ⟨fronts, behind⟩ := line.cut.unique cut
    rw [← String.toList_injective fronts, ← String.toList_injective behind] at same
    have starts : start = blank := by
      apply String.toList_injective
      simpa using congrArg String.toList same
    rwa [starts]
  · intro white
    exact ⟨before ++ start, start, rest, line.cut, white, rfl⟩

/--
Soft deletes refuse a text without timestamps. In any other text they put the statement on a new line
behind the first timestamps, and in front of it they repeat all that the line of the timestamps
starts with: nothing but the statement is added exactly if this is white space.
-/
theorem soft_deletes_repeat_start_of_line (text : String) (m : Model) (config : Config) :
    ((∃ result, softDeletes.apply text m config = .ok result) ↔
      timestampsStatement.toList <:+: text.toList) ∧
    (timestampsStatement.toList <:+: text.toList ↔
      ∃ before start rest, TimestampsLine text before start rest) ∧
    ∀ before start rest, TimestampsLine text before start rest →
      let result := before ++ start ++ timestampsStatement ++ "\n" ++ start ++
        softDeletesStatement ++ rest
      softDeletes.apply text m config = .ok result ∧
        (AddsStatement text result ↔ isBlankText start = true) := by
  have lines : timestampsStatement.toList <:+: text.toList ↔
      ∃ before start rest, TimestampsLine text before start rest := by
    refine ⟨exists_line_of_occurrence, ?_⟩
    rintro ⟨before, start, rest, line⟩
    exact ⟨_, _, line.cut.whole.symm⟩
  refine ⟨⟨?_, ?_⟩, lines, fun before start rest line =>
    ⟨softDeletes_of_line line, line.addsStatement_iff⟩⟩
  · rintro ⟨result, accepted⟩
    by_contra none
    rw [softDeletes_of_no_occurrence none] at accepted
    contradiction
  · intro occurs
    obtain ⟨before, start, rest, line⟩ := lines.mp occurs
    exact ⟨_, softDeletes_of_line line⟩

/-- A line that starts with blanks, and one behind it with other timestamps. -/
theorem soft_deletes_repeat_start_of_line_blanks :
    let text := "id;\n  $table->timestamps();\nx; $table->timestamps();\n"
    let result :=
      "id;\n  $table->timestamps();\n  $table->softDeletes();\nx; $table->timestamps();\n"
    softDeletes.apply text ⟨[]⟩ ⟨none, "migrations"⟩ = .ok result ∧ AddsStatement text result := by
  intro text result
  have line : TimestampsLine text "id;\n" "  " "\nx; $table->timestamps();\n" :=
    ⟨cut?_eq_some_iff.mp (by decide), by decide, .inr (by decide)⟩
  obtain ⟨applied, alone⟩ :=
    (soft_deletes_repeat_start_of_line text ⟨[]⟩ ⟨none, "migrations"⟩).2.2 _ _ _ line
  exact ⟨applied, alone.mpr (by decide)⟩

/-- A column that is declared on the line of the timestamps is declared once more. -/
theorem soft_deletes_repeat_column :
    let text := "    $table->string('a'); $table->timestamps();\n"
    let result := "    $table->string('a'); $table->timestamps();\n" ++
      "    $table->string('a'); $table->softDeletes();\n"
    softDeletes.apply text ⟨[]⟩ ⟨none, "migrations"⟩ = .ok result ∧ ¬ AddsStatement text result := by
  intro text result
  have line : TimestampsLine text "" "    $table->string('a'); " "\n" :=
    ⟨cut?_eq_some_iff.mp (by decide), by decide, .inl rfl⟩
  refine ⟨softDeletes_of_line line, fun alone => ?_⟩
  have white := line.addsStatement_iff.mp alone
  revert white
  decide

end ModelMigration.Extension
