import ModelMigration.Proofs.Text.FirstOccurrence

/-!
# What replacing touches

Text in front of which, and in which, no occurrence of the pattern starts is not touched when the
pattern is replaced. A text with an occurrence does not stay, unless the pattern is replaced by
itself.
-/

namespace ModelMigration.Text

variable {pattern : List Char} {value : List Char}

theorem replace_nil (nonempty : pattern ≠ []) : replace pattern value [] = [] := by
  simp [replace, replaceFrom, nonempty]

theorem replace_cons {c : Char} {cs : List Char} (nonempty : pattern ≠ [])
    (none : ¬ pattern <+: c :: cs) :
    replace pattern value (c :: cs) = c :: replace pattern value cs := by
  have missed : after? pattern (c :: cs) = Option.none :=
    Option.eq_none_iff_forall_ne_some.mpr fun rest found =>
      none ⟨rest, (after?_eq_some_iff.mp found).symm⟩
  cases pattern with
  | nil => exact absurd rfl nonempty
  | cons p others => simp only [replace, replaceFrom, missed]

/-- A front in which no occurrence starts stays. -/
theorem replace_append_of_clear {front rest : List Char} (nonempty : pattern ≠ [])
    (clear : ∀ back, back ≠ [] → back <:+ front → ¬ pattern <+: back ++ rest) :
    replace pattern value (front ++ rest) = front ++ replace pattern value rest := by
  induction front with
  | nil => rfl
  | cons c front ih =>
      have here : ¬ pattern <+: c :: (front ++ rest) :=
        clear (c :: front) (List.cons_ne_nil c front) (List.suffix_refl _)
      have later := ih fun back some behind =>
        clear back some (behind.trans (List.suffix_cons c front))
      rw [List.cons_append, replace_cons nonempty here, later, List.cons_append]

theorem replace_of_not_infix {text : List Char} (nonempty : pattern ≠ [])
    (none : ¬ pattern <:+: text) : replace pattern value text = text := by
  have clear : ∀ back, back ≠ [] → back <:+ text → ¬ pattern <+: back ++ [] := by
    intro back _ behind starts
    rw [List.append_nil] at starts
    exact none (starts.isInfix.trans behind.isInfix)
  have whole : replace pattern value (text ++ []) = text ++ replace pattern value [] :=
    replace_append_of_clear nonempty clear
  rwa [replace_nil nonempty, List.append_nil] at whole

/-- A pattern that starts with one character twice starts nowhere in a front that has this character
twice nowhere, neither inside nor together with what stands behind. -/
theorem replace_append_of_plain {opening : Char} {front rest : List Char}
    (twice : [opening, opening] <+: pattern) (plain : ¬ [opening, opening] <:+: front)
    (closed : rest ≠ [] → front.getLast? ≠ some opening) :
    replace pattern value (front ++ rest) = front ++ replace pattern value rest := by
  have nonempty : pattern ≠ [] := by
    rintro rfl
    simp at twice
  refine replace_append_of_clear nonempty fun back some behind starts => ?_
  have opens := twice.trans starts
  match back with
  | [] => exact some rfl
  | [c] =>
      -- The first of the two ends the front, the second starts what stands behind it.
      obtain ⟨rfl, opens⟩ := List.cons_prefix_cons.mp opens
      have further : rest ≠ [] := by
        rintro rfl
        simp at opens
      obtain ⟨before, rfl⟩ := behind
      exact closed further (by simp)
  | c :: d :: back =>
      have inBack : [opening, opening] <+: c :: d :: back := by
        simpa only [List.cons_append, List.cons_prefix_cons, List.nil_prefix] using opens
      exact plain (inBack.isInfix.trans behind.isInfix)

/-! ## Where the pattern occurs -/

theorem replace_of_firstCut {text before rest : List Char} (nonempty : pattern ≠ [])
    (cut : FirstCut pattern text before rest) :
    replace pattern value text = before ++ (value ++ replace pattern value rest) := by
  rw [cut.whole, List.append_assoc,
    replace_append_of_clear nonempty fun _ some ends => cut.clear some ends,
    replace_append value rest nonempty]

/-- The length grows or shrinks by the same number of characters at every occurrence. -/
theorem exists_length_replace (value : List Char) (nonempty : pattern ≠ []) (text : List Char) :
    ∃ times, (replace pattern value text).length + times * pattern.length =
      text.length + times * value.length := by
  by_cases occurs : pattern <:+: text
  · obtain ⟨before, rest, cut⟩ := exists_firstCut_of_infix occurs
    have shorter : rest.length < text.length := by
      have some := List.length_pos_iff.mpr nonempty
      rw [cut.whole, List.length_append, List.length_append]
      omega
    obtain ⟨times, later⟩ := exists_length_replace value nonempty rest
    refine ⟨times + 1, ?_⟩
    rw [replace_of_firstCut nonempty cut, cut.whole]
    simp only [List.length_append, Nat.add_mul, Nat.one_mul]
    omega
  · have stays : replace pattern value text = text := replace_of_not_infix nonempty occurs
    exact ⟨0, by rw [stays, Nat.zero_mul, Nat.zero_mul]⟩
termination_by text.length

/-- A text with an occurrence stays only where the pattern is replaced by itself. -/
theorem eq_of_replace_eq {text : List Char} (nonempty : pattern ≠ []) (occurs : pattern <:+: text)
    (stays : replace pattern value text = text) : value = pattern := by
  obtain ⟨before, rest, cut⟩ := exists_firstCut_of_infix occurs
  obtain ⟨times, counted⟩ := exists_length_replace value nonempty rest
  rw [replace_of_firstCut nonempty cut, cut.whole, List.append_assoc] at stays
  have behind := List.append_cancel_left stays
  have lengths : value.length = pattern.length := by
    have whole := congrArg List.length behind
    rw [List.length_append, List.length_append] at whole
    have scaled : (times + 1) * value.length = (times + 1) * pattern.length := by
      rw [Nat.add_mul, Nat.add_mul, Nat.one_mul, Nat.one_mul]
      omega
    exact Nat.eq_of_mul_eq_mul_left (Nat.succ_pos times) scaled
  exact (List.append_inj behind lengths).1

end ModelMigration.Text
