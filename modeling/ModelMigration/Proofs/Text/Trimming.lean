import Mathlib.Data.List.DropRight
import ModelMigration.Text.Blank

/-!
# Trimming

A trimmed text has no white space at its ends, and the text that was trimmed is this one with white
space around it.
-/

namespace ModelMigration.Text

/-- Whether no white space stands at either end. -/
def Tight (s : String) : Prop :=
  (∀ c ∈ s.toList.head?, isBlank c = false) ∧ ∀ c ∈ s.toList.getLast?, isBlank c = false

/-- Whether `padded` is the text `s` with any white space in front of it and behind it. -/
def Around (s padded : String) : Prop :=
  ∃ front back, isBlankText front = true ∧ isBlankText back = true ∧ padded = front ++ s ++ back

theorem Around.refl (s : String) : Around s s := ⟨"", "", rfl, rfl, by simp⟩

theorem trim_eq (cs : List Char) : trim cs = (cs.dropWhile isBlank).rdropWhile isBlank := rfl

theorem trim_append {front back : List Char} (hf : allBlank front = true)
    (hb : allBlank back = true) (cs : List Char) : trim (front ++ cs ++ back) = trim cs := by
  have blank : back.reverse.dropWhile isBlank = [] :=
    List.dropWhile_eq_nil_iff.mpr fun c mem => List.all_eq_true.mp hb c (List.mem_reverse.mp mem)
  rw [List.append_assoc, trim_eq, List.dropWhile_append_of_pos (List.all_eq_true.mp hf),
    List.dropWhile_append, trim_eq]
  cases rest : cs.dropWhile isBlank with
  | nil => simp [List.dropWhile_eq_nil_iff.mpr (List.all_eq_true.mp hb)]
  | cons c kept =>
      rw [List.isEmpty_cons, if_neg Bool.false_ne_true, List.rdropWhile, List.reverse_append,
        List.dropWhile_append, blank]
      rfl

theorem trim_of_tight {s : String} (tight : Tight s) : trim s.toList = s.toList := by
  have first : s.toList.dropWhile isBlank = s.toList := by
    cases chars : s.toList with
    | nil => rfl
    | cons c cs => simp [tight.1 c (by simp [chars])]
  rw [trim_eq, first, List.rdropWhile_eq_self_iff]
  intro some
  simp [tight.2 _ (List.getLast?_eq_some_getLast some)]

theorem tight_trimmed (s : String) : Tight (trimmed s) := by
  unfold Tight
  rw [trimmed, String.toList_ofList, trim_eq]
  constructor
  · intro c first
    obtain ⟨behind, front⟩ := List.rdropWhile_prefix isBlank (s.toList.dropWhile isBlank)
    have head : (s.toList.dropWhile isBlank).head? = some c := by
      rw [← front, List.head?_append, first]
      rfl
    have open' := List.head?_dropWhile_not isBlank s.toList
    rwa [head] at open'
  · intro c last
    have some : (s.toList.dropWhile isBlank).rdropWhile isBlank ≠ [] := by
      intro none
      simp [none] at last
    have closed := List.rdropWhile_last_not isBlank _ some
    rw [List.getLast?_eq_some_getLast some] at last
    rw [← Option.some.inj last]
    simpa using closed

theorem around_trimmed (s : String) : Around (trimmed s) s := by
  refine ⟨.ofList (s.toList.takeWhile isBlank),
    .ofList ((s.toList.dropWhile isBlank).rtakeWhile isBlank), ?_, ?_, ?_⟩
  · rw [isBlankText, String.toList_ofList]
    exact List.all_eq_true.mpr fun c mem => List.mem_takeWhile_imp mem
  · rw [isBlankText, String.toList_ofList]
    exact List.all_eq_true.mpr fun c mem => List.mem_rtakeWhile_imp mem
  · apply String.toList_injective
    simp [trimmed, trim_eq, List.append_assoc]

/-- Trimming leaves the one text without white space at its ends that the text is padded from. -/
theorem trimmed_eq_iff {s padded : String} : trimmed padded = s ↔ Tight s ∧ Around s padded := by
  constructor
  · rintro rfl
    exact ⟨tight_trimmed padded, around_trimmed padded⟩
  · rintro ⟨tight, front, back, hf, hb, rfl⟩
    rw [trimmed, String.toList_append, String.toList_append, trim_append hf hb, trim_of_tight tight,
      String.ofList_toList]

theorem not_isBlankText_append {front : String} (filled : isBlankText front = false)
    (rest : String) : isBlankText (front ++ rest) = false := by
  simp only [isBlankText, allBlank, String.toList_append, List.all_append] at filled ⊢
  rw [filled, Bool.false_and]

theorem mem_iff_of_around {s padded : String} {c : Char} (around : Around s padded)
    (dark : isBlank c = false) : c ∈ padded.toList ↔ c ∈ s.toList := by
  obtain ⟨front, back, hf, hb, rfl⟩ := around
  have absent : ∀ text : String, isBlankText text = true → c ∉ text.toList := by
    intro text blank mem
    rw [List.all_eq_true.mp blank c mem] at dark
    contradiction
  simp [absent front hf, absent back hb]

end ModelMigration.Text
