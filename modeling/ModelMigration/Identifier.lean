/-!
# Identifiers

The names that may stand for a column, a table, a column method or a modifier: ASCII letters, digits
and underscores, with no digit in front.
-/

namespace ModelMigration

/-- Whether an identifier may start with the character. -/
def startsIdentifier (c : Char) : Bool := c.isAlpha || c = '_'

/-- Whether an identifier may go on with the character. -/
def continuesIdentifier (c : Char) : Bool := c.isAlphanum || c = '_'

/-- Whether the text is an identifier. -/
def isIdentifier (s : String) : Bool :=
  match s.toList with
  | [] => false
  | c :: cs => startsIdentifier c && cs.all continuesIdentifier

theorem isIdentifier_ne_empty {s : String} (h : isIdentifier s = true) : s ≠ "" := by
  rintro rfl
  simp [isIdentifier] at h

theorem continuesIdentifier_of_starts {c : Char} (h : startsIdentifier c = true) :
    continuesIdentifier c = true := by
  simp only [startsIdentifier, Bool.or_eq_true, decide_eq_true_eq] at h
  simp only [continuesIdentifier, Char.isAlphanum, Bool.or_eq_true, decide_eq_true_eq]
  rcases h with h | h
  · exact Or.inl (Or.inl h)
  · exact Or.inr h

/-- An identifier holds no other characters than letters, digits and underscores. -/
theorem continuesIdentifier_of_mem {s : String} (h : isIdentifier s = true) {c : Char}
    (mem : c ∈ s.toList) : continuesIdentifier c = true := by
  rw [isIdentifier] at h
  split at h
  · simp at h
  · next first rest shape =>
      rw [shape] at mem
      obtain ⟨start, others⟩ := Bool.and_eq_true_iff.mp h
      rcases List.mem_cons.mp mem with rfl | tail
      · exact continuesIdentifier_of_starts start
      · exact List.all_eq_true.mp others c tail

end ModelMigration
