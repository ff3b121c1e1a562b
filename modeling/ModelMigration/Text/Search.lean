/-!
# Searching and replacing

Occurrences of a pattern are taken from left to right and do not overlap. The empty pattern occurs
before every character and at the end.
-/

namespace ModelMigration.Text

/-- What follows `pattern` at the front of the text, if the text starts with it. -/
def after? : (pattern text : List Char) → Option (List Char)
  | [], text => some text
  | _ :: _, [] => none
  | p :: pattern, c :: text => if p = c then after? pattern text else none

/-- The text before and after the first occurrence of `pattern`. -/
def cut? (pattern : List Char) : List Char → Option (List Char × List Char)
  | [] => if pattern = [] then some ([], []) else none
  | c :: cs =>
      match after? pattern (c :: cs) with
      | some rest => some ([], rest)
      | none => (cut? pattern cs).map fun (before, rest) => (c :: before, rest)

/--
The text with `value` for every occurrence of `pattern`, once the next `skip` characters, which
belong to an occurrence already replaced, are dropped.
-/
def replaceFrom (pattern value : List Char) : (skip : Nat) → List Char → List Char
  | _, [] => if pattern = [] then value else []
  | skip + 1, _ :: cs => replaceFrom pattern value skip cs
  | 0, c :: cs =>
      match pattern with
      | [] => value ++ c :: replaceFrom pattern value 0 cs
      | _ :: others =>
          match after? pattern (c :: cs) with
          | some _ => value ++ replaceFrom pattern value others.length cs
          | none => c :: replaceFrom pattern value 0 cs

/-- The text with `value` in place of every occurrence of `pattern`. -/
def replace (pattern value text : List Char) : List Char := replaceFrom pattern value 0 text

/-- The text with `value` in place of every occurrence of `pattern`. -/
def replaced (pattern value text : String) : String :=
  String.ofList (replace pattern.toList value.toList text.toList)

theorem after?_eq_some_iff {pattern text rest : List Char} :
    after? pattern text = some rest ↔ text = pattern ++ rest := by
  induction pattern generalizing text with
  | nil => simp [after?]
  | cons p pattern ih =>
      cases text with
      | nil => simp [after?]
      | cons c text =>
          by_cases same : p = c
          · simp [after?, same, ih]
          · simp [after?, same, Ne.symm same]

theorem eq_of_cut? {pattern text before rest : List Char}
    (found : cut? pattern text = some (before, rest)) : text = before ++ pattern ++ rest := by
  induction text generalizing before with
  | nil =>
      simp only [cut?] at found
      split at found <;> simp_all
  | cons c text ih =>
      simp only [cut?] at found
      split at found
      · next here =>
          obtain ⟨rfl, rfl⟩ := by simpa using found
          simpa using after?_eq_some_iff.mp here
      · obtain ⟨⟨front, back⟩, later, shape⟩ := Option.map_eq_some_iff.mp found
        obtain ⟨rfl, rfl⟩ := by simpa using shape
        simp [ih later]

theorem replaceFrom_length (pattern value skipped rest : List Char) :
    replaceFrom pattern value skipped.length (skipped ++ rest) =
      replaceFrom pattern value 0 rest := by
  induction skipped with
  | nil => rfl
  | cons c skipped ih => simpa [replaceFrom] using ih

/-- An occurrence at the front is replaced, and the search goes on behind it. -/
theorem replace_append {pattern : List Char} (value rest : List Char) (nonempty : pattern ≠ []) :
    replace pattern value (pattern ++ rest) = value ++ replace pattern value rest := by
  cases pattern with
  | nil => exact absurd rfl nonempty
  | cons p others =>
      have here : after? (p :: others) (p :: (others ++ rest)) = some rest :=
        after?_eq_some_iff.mpr rfl
      simp only [replace, List.cons_append, replaceFrom, here]
      rw [replaceFrom_length]

end ModelMigration.Text
