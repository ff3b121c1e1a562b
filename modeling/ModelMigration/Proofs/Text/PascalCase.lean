import Mathlib.Data.List.Basic
import ModelMigration.Proofs.Text.Lowering
import ModelMigration.Text.Blank
import ModelMigration.Text.Words

/-!
# Texts in Pascal case

The words of a text are made of its letters and numbers, and capitals and lower case of these are
letters and numbers again, or marks that belong to them. So a text in Pascal case has nothing else,
and it is empty where the text that it is made from has no letter and no number.
-/

namespace ModelMigration.Text

/-! ## Spans -/

/-- Whether a shift leads from all code points of its span into another one, without gaps. -/
def Shift.landsIn (s : Shift) (t : Span) : Bool :=
  Nat.ble (s.span.last + s.distance).toNat t.last &&
    (Nat.ble t.first (s.span.first + s.distance).toNat && t.step == 1)

/-- Whether a shift leads into spans: from all of its code points into one of them, or from each of
the few that it has into one. -/
def Shift.landsAmong (s : Shift) (spans : List Span) : Bool :=
  spans.any s.landsIn || Nat.blt s.span.last (s.span.first + 8) &&
    (List.range 8).all fun k => !s.span.holds (s.span.first + k) ||
      spans.any fun t => t.holds ((s.span.first + k : Nat) + s.distance).toNat

theorem Shift.exists_holds_of_landsAmong {s : Shift} {spans : List Span} {n : Nat}
    (lands : s.landsAmong spans = true) (holds : s.span.holds n = true) :
    ∃ t ∈ spans, t.holds ((n : Int) + s.distance).toNat = true := by
  have range := holds
  simp only [Span.holds, Bool.and_eq_true, decide_eq_true_eq] at range
  rw [landsAmong, Bool.or_eq_true, Bool.and_eq_true] at lands
  rcases lands with whole | ⟨few, each⟩
  · obtain ⟨t, mem, inside⟩ := List.any_eq_true.mp whole
    simp only [landsIn, Bool.and_eq_true, Nat.ble_eq, beq_iff_eq] at inside
    refine ⟨t, mem, ?_⟩
    simp only [Span.holds, inside.2.2, Nat.mod_one, Bool.and_eq_true, decide_eq_true_eq]
    exact ⟨⟨by omega, by omega⟩, rfl⟩
  · have short : n - s.span.first < 8 := by
      rw [Nat.blt_eq] at few
      omega
    have same : s.span.first + (n - s.span.first) = n := by omega
    have found := List.all_eq_true.mp each (n - s.span.first) (List.mem_range.mpr short)
    rw [same, holds, Bool.not_true, Bool.false_or] at found
    exact List.any_eq_true.mp found

/-- The partner of a character lies in spans that the shifts lead into. -/
theorem cover_partner? {shifts : List Shift} {spans : List Span} {c d : Char}
    (characters : ∀ t ∈ spans, t.last < 0xD800 ∨ 0xE000 ≤ t.first ∧ t.last < 0x110000)
    (lands : shifts.all (·.landsAmong spans) = true) (partner : Shift.partner? shifts c = some d) :
    Span.cover spans d = true := by
  obtain ⟨s, found, rfl⟩ := Option.map_eq_some_iff.mp partner
  have holds : s.span.holds c.toNat = true :=
    List.find?_some (p := fun s : Shift => s.span.holds c.toNat) found
  have landing := List.all_eq_true.mp lands s (List.mem_of_find?_eq_some found)
  obtain ⟨t, mem, lies⟩ := Shift.exists_holds_of_landsAmong landing holds
  have range := lies
  simp only [Span.holds, Bool.and_eq_true, decide_eq_true_eq] at range
  have valid : ((c.toNat : Int) + s.distance).toNat.isValidChar := by
    rcases characters t mem with below | above
    · left
      omega
    · right
      omega
  rw [Span.cover, List.any_eq_true]
  exact ⟨t, mem, by rwa [toNat_ofNat_of_valid valid]⟩

/-- Whether two spans lie one behind the other. -/
def Span.apart (s t : Span) : Bool := Nat.blt s.last t.first || Nat.blt t.last s.first

theorem cover_eq_false_of_apart {spans others : List Span} {c : Char}
    (apart : (spans.all fun s => others.all s.apart) = true)
    (covered : Span.cover spans c = true) : Span.cover others c = false := by
  obtain ⟨s, mem, holds⟩ := List.any_eq_true.mp covered
  refine List.any_eq_false.mpr fun t memOther holdsOther => ?_
  have distinct := List.all_eq_true.mp (List.all_eq_true.mp apart s mem) t memOther
  simp only [Span.apart, Bool.or_eq_true, Nat.blt_eq] at distinct
  simp only [Span.holds, Bool.and_eq_true, decide_eq_true_eq] at holds holdsOther
  omega

/-! ## Case forms of letters and numbers -/

theorem mem_of_lookup_eq_some {n : Nat} {codes : List Nat} {table : List (Nat × List Nat)}
    (found : table.lookup n = some codes) : (n, codes) ∈ table := by
  obtain ⟨front, behind, rfl, -⟩ := List.lookup_eq_some_iff.mp found
  exact List.mem_append_right front List.mem_cons_self

/-- The marks that case forms have behind their letters. -/
def caseMarks : List Char :=
  ['\u0300', '\u0301', '\u0307', '\u0308', '\u030a', '\u030c', '\u0313', '\u0331', '\u0342']

/-- Whether a character is a letter, a number or a mark of a case form. -/
def isWordPart (c : Char) : Bool := isAlphanumeric c || c ∈ caseMarks

theorem isWordPart_of_isAlphanumeric {c : Char} (h : isAlphanumeric c = true) :
    isWordPart c = true := by
  rw [isWordPart, h, Bool.true_or]

theorem alphanumericSpans_are_characters :
    ∀ t ∈ alphanumericSpans, t.last < 0xD800 ∨ 0xE000 ≤ t.first ∧ t.last < 0x110000 := by
  decide +kernel

theorem isAlphanumeric_partner? {shifts : List Shift} {c : Char}
    (lands : shifts.all (·.landsAmong alphanumericSpans) = true) (h : isAlphanumeric c = true) :
    isAlphanumeric ((Shift.partner? shifts c).getD c) = true := by
  cases partner : Shift.partner? shifts c with
  | none => exact h
  | some d => exact cover_partner? alphanumericSpans_are_characters lands partner

theorem isWordPart_of_mem_lowercaseForm {c lower : Char} (h : isAlphanumeric c = true)
    (mem : lower ∈ lowercaseForm c) : isWordPart lower = true := by
  unfold lowercaseForm at mem
  split at mem
  · rcases List.mem_pair.mp mem with rfl | rfl
    · decide +kernel
    · decide +kernel
  · rw [List.mem_singleton.mp mem]
    exact isWordPart_of_isAlphanumeric (isAlphanumeric_partner? (by decide +kernel) h)

theorem isWordPart_of_mem_uppercaseForm {c upper : Char} (h : isAlphanumeric c = true)
    (mem : upper ∈ uppercaseForm c) : isWordPart upper = true := by
  have table : ∀ pair ∈ uppercaseExpansions, ∀ code ∈ pair.2, isWordPart (Char.ofNat code) := by
    decide +kernel
  unfold uppercaseForm at mem
  split at mem
  · next codes found =>
      obtain ⟨code, memCodes, rfl⟩ := List.mem_map.mp mem
      exact table _ (mem_of_lookup_eq_some found) code memCodes
  · rw [List.mem_singleton.mp mem]
    exact isWordPart_of_isAlphanumeric (isAlphanumeric_partner? (by decide +kernel) h)

theorem uppercaseForm_ne_nil (c : Char) : uppercaseForm c ≠ [] := by
  have table : ∀ pair ∈ uppercaseExpansions, pair.2 ≠ [] := by decide +kernel
  unfold uppercaseForm
  split
  · next codes found =>
      have some := table _ (mem_of_lookup_eq_some found)
      simpa using some
  · exact List.cons_ne_nil _ _

theorem isWordPart_of_mem_capitalized {word : List Char} {c : Char}
    (alphanumeric : ∀ d ∈ word, isAlphanumeric d = true) (mem : c ∈ capitalized word) :
    isWordPart c = true := by
  have inTail : ∀ cs : List Char, (∀ d ∈ cs, isAlphanumeric d = true) → c ∈ lowerTail cs →
      isWordPart c = true := by
    intro cs
    induction cs using lowerTail.induct with
    | case1 => simp [lowerTail]
    | case2 =>
        intro _ last
        rw [lowerTail, List.mem_singleton] at last
        rw [last]
        decide +kernel
    | case3 d cs noSigma ih =>
        intro each here
        rw [List.forall_mem_cons] at each
        rw [lowerTail, List.mem_append] at here
        · exact here.elim (isWordPart_of_mem_lowercaseForm each.1) (ih each.2)
        · exact noSigma
  cases word with
  | nil => simp [capitalized] at mem
  | cons d cs =>
      rw [List.forall_mem_cons] at alphanumeric
      rw [capitalized, List.mem_append] at mem
      exact mem.elim (isWordPart_of_mem_uppercaseForm alphanumeric.1) (inTail cs alphanumeric.2)

theorem capitalized_ne_nil {word : List Char} (filled : word ≠ []) : capitalized word ≠ [] := by
  cases word with
  | nil => exact absurd rfl filled
  | cons c cs => exact List.append_ne_nil_of_left_ne_nil (uppercaseForm_ne_nil c) _

/-! ## Words -/

theorem runs_ne_nil (cs : List Char) : runs cs ≠ [] := by
  cases cs with
  | nil => exact List.cons_ne_nil _ _
  | cons c cs =>
      rw [runs]
      split
      · exact List.cons_ne_nil _ _
      · split <;> exact List.cons_ne_nil _ _

/-- Put together, the runs of a text are its letters and numbers. -/
theorem flatten_runs (cs : List Char) : (runs cs).flatten = cs.filter isAlphanumeric := by
  induction cs with
  | nil => rfl
  | cons c cs ih =>
      rw [runs]
      split
      · next none => exact absurd none (runs_ne_nil cs)
      · next run others found =>
          rw [found, List.flatten_cons] at ih
          split
          · next taken => simp [List.filter_cons_of_pos taken, ← ih]
          · next left => simp [List.filter_cons_of_neg left, ← ih]

/-- Put together, the words of a run are the run. -/
theorem flatten_wordsFrom {word : List Char} {current : Case} {cs : List Char} (some : cs ≠ []) :
    (wordsFrom word current cs).flatten = word.reverse ++ cs := by
  induction word, current, cs using wordsFrom.induct with
  | case1 => exact absurd rfl some
  | case2 => simp [wordsFrom]
  | case3 word current c next cs ends ih =>
      simp [wordsFrom, ends, ih (List.cons_ne_nil _ _)]
  | case4 word current c next cs ends starts ih =>
      simp [wordsFrom, ends, starts, ih (List.cons_ne_nil _ _)]
  | case5 word current c next cs ends starts ih =>
      simp [wordsFrom, ends, starts, ih (List.cons_ne_nil _ _)]

/-- No word is empty: a word under way that has a case has a character. -/
theorem ne_nil_of_mem_wordsFrom {word : List Char} {current : Case} {cs one : List Char}
    (held : current ≠ .none → word ≠ []) (mem : one ∈ wordsFrom word current cs) : one ≠ [] := by
  induction word, current, cs using wordsFrom.induct with
  | case1 => simp [wordsFrom] at mem
  | case2 => simp_all [wordsFrom]
  | case3 word current c next cs ends ih =>
      rw [wordsFrom, if_pos ends] at mem
      rcases List.mem_cons.mp mem with rfl | later
      · simp
      · exact ih (fun case => absurd rfl case) later
  | case4 word current c next cs ends starts ih =>
      rw [wordsFrom, if_neg ends, if_pos starts] at mem
      rcases List.mem_cons.mp mem with rfl | later
      · have upper : current = .upper := by simp_all
        simpa using held (by simp [upper])
      · exact ih (fun _ => List.cons_ne_nil _ _) later
  | case5 word current c next cs ends starts ih =>
      rw [wordsFrom, if_neg ends, if_neg starts] at mem
      exact ih (fun _ => List.cons_ne_nil _ _) mem

/-- Put together, the words of a text are its letters and numbers. -/
theorem flatten_words (cs : List Char) : (words cs).flatten = cs.filter isAlphanumeric := by
  have each : ∀ run : List Char, (wordsFrom [] .none run).flatten = run := by
    intro run
    cases run with
    | nil => rfl
    | cons c run => exact flatten_wordsFrom (List.cons_ne_nil c run)
  rw [← flatten_runs, words]
  induction runs cs with
  | nil => rfl
  | cons run others ih => rw [List.flatMap_cons, List.flatten_append, each, ih, List.flatten_cons]

theorem isAlphanumeric_of_mem_words {cs word : List Char} {c : Char} (mem : word ∈ words cs)
    (memWord : c ∈ word) : isAlphanumeric c = true := by
  have inText : c ∈ (words cs).flatten := List.mem_flatten.mpr ⟨word, mem, memWord⟩
  rw [flatten_words] at inText
  exact (List.mem_filter.mp inText).2

theorem ne_nil_of_mem_words {cs word : List Char} (mem : word ∈ words cs) : word ≠ [] := by
  obtain ⟨run, -, inRun⟩ := List.mem_flatMap.mp mem
  exact ne_nil_of_mem_wordsFrom (fun case => absurd rfl case) inRun

/-! ## Pascal case -/

/-- A text in Pascal case has letters, numbers and marks of case forms, and nothing else. -/
theorem isWordPart_of_mem_pascalCase {text : String} {c : Char}
    (mem : c ∈ (pascalCase text).toList) : isWordPart c = true := by
  rw [pascalCase, String.toList_ofList] at mem
  obtain ⟨word, inText, inWord⟩ := List.mem_flatMap.mp mem
  exact isWordPart_of_mem_capitalized (fun _ => isAlphanumeric_of_mem_words inText) inWord

/-- A text in Pascal case is empty where there is no letter and no number to make it of. -/
theorem pascalCase_eq_empty_iff (text : String) :
    pascalCase text = "" ↔ ∀ c ∈ text.toList, isAlphanumeric c = false := by
  have noWord : pascalCase text = "" ↔ words text.toList = [] := by
    rw [pascalCase, ← String.toList_inj, String.toList_ofList]
    change List.flatMap capitalized (words text.toList) = [] ↔ _
    rw [List.flatMap_eq_nil_iff]
    refine ⟨fun blank => ?_, fun none => by simp [none]⟩
    refine List.eq_nil_iff_forall_not_mem.mpr fun word mem => ?_
    exact capitalized_ne_nil (ne_nil_of_mem_words mem) (blank word mem)
  have noLetter : words text.toList = [] ↔ (words text.toList).flatten = [] := by
    refine ⟨fun none => by rw [none, List.flatten_nil], fun blank => ?_⟩
    refine List.eq_nil_iff_forall_not_mem.mpr fun word mem => ?_
    exact ne_nil_of_mem_words mem (List.flatten_eq_nil_iff.mp blank word mem)
  rw [noWord, noLetter, flatten_words, List.filter_eq_nil_iff]
  simp only [Bool.not_eq_true]

end ModelMigration.Text
