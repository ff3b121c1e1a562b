import Mathlib.Data.List.TakeWhile
import ModelMigration.Naming

/-!
# Sigmas at the end of a name

The name of a table is put into lower case with its plural `s`, the name in the file of a migration
without it. Of all characters only a capital sigma looks at what follows, so the two agree unless
the last letter of a model's name is one: it ends the word in the file name and not in the table.
-/

namespace ModelMigration

namespace Text

variable {cs rest rest' : List Char}

/-- Whether the last character that counts for casing is a capital sigma behind a cased letter. -/
def endsInSigma (text : String) : Bool :=
  match text.toList.reverse.dropWhile isCaseIgnorable with
  | 'Σ' :: before => meetsCased before
  | _ => false

theorem isCaseIgnorable_sigma : isCaseIgnorable 'Σ' = false := by decide +kernel

theorem endsInSigma_iff {text : String} : endsInSigma text = true ↔
    ∃ front behind, text.toList = front ++ 'Σ' :: behind ∧ meetsCased front.reverse = true ∧
      ∀ c ∈ behind, isCaseIgnorable c = true := by
  unfold endsInSigma
  constructor
  · intro ends
    split at ends
    · next before found =>
        -- The characters that were dropped are those behind the sigma.
        have parts : text.toList.reverse =
            text.toList.reverse.takeWhile isCaseIgnorable ++ 'Σ' :: before := by
          rw [← found, List.takeWhile_append_dropWhile]
        have chars := congrArg List.reverse parts
        rw [List.reverse_reverse, List.reverse_append, List.reverse_cons,
          List.append_assoc] at chars
        refine ⟨before.reverse, _, chars, ?_, fun c mem => ?_⟩
        · rwa [List.reverse_reverse]
        · exact List.mem_takeWhile_imp (List.mem_reverse.mp mem)
    · contradiction
  · rintro ⟨front, behind, chars, cased, ignored⟩
    have found : text.toList.reverse.dropWhile isCaseIgnorable = 'Σ' :: front.reverse := by
      rw [chars, List.reverse_append, List.reverse_cons, List.append_assoc,
        List.dropWhile_append_of_pos fun c mem => ignored c (List.mem_reverse.mp mem)]
      simp [isCaseIgnorable_sigma]
    rw [found]
    exact cased

/-! ## What a sigma sees behind it -/

theorem meetsCased_append_of_ignored (ignored : ∀ c ∈ cs, isCaseIgnorable c = true)
    (rest : List Char) : meetsCased (cs ++ rest) = meetsCased rest := by
  unfold meetsCased
  rw [List.dropWhile_append_of_pos ignored]

theorem meetsCased_append_of_counts {c : Char} (mem : c ∈ cs) (counts : isCaseIgnorable c = false)
    (rest : List Char) : meetsCased (cs ++ rest) = meetsCased cs := by
  induction cs with
  | nil => contradiction
  | cons d cs ih =>
      by_cases ignored : isCaseIgnorable d = true
      · have later : c ∈ cs := by
          rcases List.mem_cons.mp mem with rfl | later
          · rw [counts] at ignored
            contradiction
          · exact later
        simpa [meetsCased, ignored] using ih later
      · simp [meetsCased, ignored]

theorem meetsCased_letter : meetsCased ['s'] = true := by decide +kernel

/-- A sigma that no cased letter follows sees a letter that is put at the end if nothing between the
two counts. -/
theorem endsWord_append_letter (before cs : List Char) : endsWord before (cs ++ ['s']) =
    (endsWord before cs && !cs.all isCaseIgnorable) := by
  cases all : cs.all isCaseIgnorable with
  | true =>
      rw [endsWord, meetsCased_append_of_ignored (List.all_eq_true.mp all) _, meetsCased_letter]
      simp
  | false =>
      obtain ⟨c, mem, counts⟩ := List.all_eq_false.mp all
      rw [endsWord, endsWord, meetsCased_append_of_counts mem (by simpa using counts)]
      simp

/-- What stands in front of a character that counts is lowered alike whatever stands behind it. -/
theorem exists_lowerAfter_append {c : Char} (counts : isCaseIgnorable c = false)
    (before front : List Char) : ∃ lower, ∀ rest,
      lowerAfter before (front ++ c :: rest) =
        lower ++ lowerAfter (front.reverse ++ before) (c :: rest) := by
  induction front generalizing before with
  | nil => exact ⟨[], fun rest => rfl⟩
  | cons d front ih =>
      obtain ⟨lower, later⟩ := ih (d :: before)
      refine ⟨(if d = 'Σ' then [if endsWord before (front ++ [c]) then 'ς' else 'σ']
        else lowercaseForm d) ++ lower, fun rest => ?_⟩
      have seen : meetsCased (front ++ c :: rest) = meetsCased (front ++ [c]) := by
        rw [List.append_cons]
        exact meetsCased_append_of_counts (by simp) counts rest
      rw [List.cons_append, lowerAfter, later, endsWord, seen, ← endsWord, List.reverse_cons,
        List.append_assoc, List.append_assoc, List.singleton_append]

/-! ## Lower case with a letter at the end -/

/-- A letter at the end changes nothing in front of it where no sigma ends a word there. -/
theorem lowerAfter_append_letter (before cs : List Char)
    (free : ∀ front behind, cs = front ++ 'Σ' :: behind →
      meetsCased (front.reverse ++ before) = true → ∃ c ∈ behind, isCaseIgnorable c = false) :
    lowerAfter before (cs ++ ['s']) = lowerAfter before cs ++ ['s'] := by
  induction cs generalizing before with
  | nil => rfl
  | cons c cs ih =>
      have later : ∀ front behind, cs = front ++ 'Σ' :: behind →
          meetsCased (front.reverse ++ c :: before) = true →
          ∃ d ∈ behind, isCaseIgnorable d = false := by
        intro front behind shape cased
        exact free (c :: front) behind (by rw [shape, List.cons_append]) (by simpa using cased)
      rw [List.cons_append, lowerAfter, ih _ later, lowerAfter, List.append_assoc]
      by_cases sigma : c = 'Σ'
      · have seen : endsWord before (cs ++ ['s']) = endsWord before cs := by
          rw [endsWord_append_letter]
          cases cased : meetsCased before with
          | false => simp [endsWord, cased]
          | true =>
              obtain ⟨d, mem, counts⟩ := free [] cs (by rw [sigma, List.nil_append]) cased
              have notAll : cs.all isCaseIgnorable = false :=
                List.all_eq_false.mpr ⟨d, mem, by simpa using counts⟩
              rw [notAll, Bool.not_false, Bool.and_true]
        rw [if_pos sigma, if_pos sigma, seen]
      · rw [if_neg sigma, if_neg sigma]

theorem lowered_append_letter {text : String} (free : endsInSigma text = false) :
    lowered (text ++ "s") = lowered text ++ "s" := by
  have chars : (text ++ "s").toList = text.toList ++ ['s'] := by simp
  apply String.toList_injective
  rw [lowered, lowered, chars, String.toList_append, String.toList_ofList, String.toList_ofList]
  refine lowerAfter_append_letter [] text.toList fun front behind chars cased => ?_
  rw [← Bool.not_eq_true, endsInSigma_iff] at free
  rw [List.append_nil] at cased
  have notAll : behind.all isCaseIgnorable = false := by
    rw [← Bool.not_eq_true, List.all_eq_true]
    exact fun ignored => free ⟨front, behind, chars, cased, ignored⟩
  simpa using notAll

/-- A sigma at the end of the last word is the one character that a letter behind it changes. -/
theorem lowered_of_endsInSigma {text : String} (ends : endsInSigma text = true) :
    ∃ front behind, lowered text = front ++ "ς" ++ behind ∧
      lowered (text ++ "s") = front ++ "σ" ++ behind ++ "s" := by
  obtain ⟨front, behind, chars, cased, ignored⟩ := endsInSigma_iff.mp ends
  obtain ⟨lower, lowers⟩ := exists_lowerAfter_append isCaseIgnorable_sigma [] front
  have all : behind.all isCaseIgnorable = true := List.all_eq_true.mpr ignored
  have final : endsWord front.reverse behind = true := by
    have unseen := meetsCased_append_of_ignored ignored []
    rw [List.append_nil] at unseen
    rw [endsWord, cased, unseen]
    rfl
  -- No sigma stands behind the last character that counts.
  have rest : lowerAfter ('Σ' :: front.reverse) (behind ++ ['s']) =
      lowerAfter ('Σ' :: front.reverse) behind ++ ['s'] := by
    refine lowerAfter_append_letter _ behind fun front' behind' shape _ => ?_
    have counted := ignored 'Σ' (by rw [shape]; simp)
    rw [isCaseIgnorable_sigma] at counted
    contradiction
  refine ⟨String.ofList lower, String.ofList (lowerAfter ('Σ' :: front.reverse) behind), ?_, ?_⟩
  · apply String.toList_injective
    simp [lowered, chars, lowers, lowerAfter, final]
  · have letter : endsWord front.reverse (behind ++ ['s']) = false := by
      rw [endsWord_append_letter, all]
      simp
    apply String.toList_injective
    simp [lowered, chars, lowers, lowerAfter, letter, rest]

end Text

/-! ## Table names and file names -/

variable {config : Config}

theorem Config.table?_eq_none (unnamed : config.tableName? = none ∨ config.tableName? = some "") :
    config.table? = none := by
  rcases unnamed with none | empty
  · simp [table?, none]
  · simp [table?, empty]

/--
Where no table name is configured, the file of a migration is named for its table exactly if no
sigma ends the model's name. If one does, the two names differ in that letter and in nothing else.
-/
theorem file_named_for_table_iff (unnamed : config.tableName? = none ∨ config.tableName? = some "")
    (t : Timestamp) (model ext : String) :
    (migrationFileName t model ext =
        t.stamp ++ "_create_" ++ tableName config model ++ "_table" ++ ext ↔
      Text.endsInSigma model = false) ∧
    (Text.endsInSigma model = true → ∃ front behind,
      migrationFileName t model ext =
        t.stamp ++ "_create_" ++ (front ++ "ς" ++ behind ++ "s") ++ "_table" ++ ext ∧
      tableName config model = front ++ "σ" ++ behind ++ "s") := by
  have table : tableName config model = Text.lowered (model ++ "s") := by
    rw [tableName, Config.table?_eq_none unnamed]
  have file : migrationFileName t model ext =
      t.stamp ++ "_create_" ++ (Text.lowered model ++ "s") ++ "_table" ++ ext := by
    have suffix : "s_table" = "s" ++ "_table" := rfl
    rw [migrationFileName, suffix]
    simp only [String.append_assoc]
  have same : migrationFileName t model ext =
      t.stamp ++ "_create_" ++ tableName config model ++ "_table" ++ ext ↔
        Text.lowered model ++ "s" = Text.lowered (model ++ "s") := by
    rw [file, table]
    simp
  rw [same]
  cases ends : Text.endsInSigma model with
  | false => simp [Text.lowered_append_letter ends]
  | true =>
      obtain ⟨front, behind, alone, plural⟩ := Text.lowered_of_endsInSigma ends
      have apart : Text.lowered model ++ "s" ≠ Text.lowered (model ++ "s") := by
        rw [alone, plural]
        simp
      exact ⟨iff_of_false apart (by simp),
        fun _ => ⟨front, behind, by rw [file, alone], by rw [table, plural]⟩⟩

/-- Under an empty table name, a model whose sigmas stand in front of letters has one name for both,
and one that ends in a sigma with an apostrophe has two. -/
theorem file_named_for_table_iff_apostrophe :
    let config : Config := ⟨some "", "m"⟩
    let t := Timestamp.ofParts ⟨2024, 2, 29⟩ 23 59 59
    (config.tableName? = none ∨ config.tableName? = some "") ∧
      migrationFileName t "ΣΑΣΙ" ".php" =
        t.stamp ++ "_create_" ++ tableName config "ΣΑΣΙ" ++ "_table" ++ ".php" ∧
      migrationFileName t "ΟΔΟΣ'" ".php" ≠
        t.stamp ++ "_create_" ++ tableName config "ΟΔΟΣ'" ++ "_table" ++ ".php" := by
  intro config t
  have unnamed : config.tableName? = none ∨ config.tableName? = some "" := .inr rfl
  have within : Text.endsInSigma "ΣΑΣΙ" = false := by decide +kernel
  have final : Text.endsInSigma "ΟΔΟΣ'" ≠ false := by decide +kernel
  exact ⟨unnamed, (file_named_for_table_iff unnamed t "ΣΑΣΙ" ".php").1.mpr within,
    mt (file_named_for_table_iff unnamed t "ΟΔΟΣ'" ".php").1.mp final⟩

/-- A model named in Greek capitals has a table that its file is not named for. -/
theorem file_not_named_for_table :
    let config : Config := ⟨none, "m"⟩
    let t := Timestamp.ofParts ⟨2024, 1, 1⟩ 0 0 0
    migrationFileName t "ΑΣ" ".php" = "2024_01_01_000000_create_αςs_table.php" ∧
      tableName config "ΑΣ" = "ασs" ∧
      migrationFileName t "ΑΣ" ".php" ≠
        t.stamp ++ "_create_" ++ tableName config "ΑΣ" ++ "_table" ++ ".php" := by
  decide +kernel

end ModelMigration
