import ModelMigration.Identifier
import ModelMigration.Proofs.Text.Trimming

/-!
# Characters of identifiers

An identifier has no white space and no mark, so padding around it can be told from it.
-/

namespace ModelMigration

open Text

theorem isBlank_of_continues {c : Char} (h : continuesIdentifier c = true) : isBlank c = false := by
  have small : c.toNat < 128 ∧ c.toNat ≠ 32 ∧ 13 < c.toNat := by
    rcases Bool.or_eq_true_iff.mp h with letterOrDigit | underscore
    · change (decide (c.val ≥ 65 ∧ c.val ≤ 90) ||
        decide (c.val ≥ 97) && decide (c.val ≤ 122) ||
        decide (c.val ≥ 48) && decide (c.val ≤ 57)) = true at letterOrDigit
      simp only [Bool.or_eq_true, Bool.and_eq_true, decide_eq_true_eq, UInt32.le_iff_toNat_le,
        ge_iff_le] at letterOrDigit
      change (65 ≤ c.toNat ∧ c.toNat ≤ 90 ∨ 97 ≤ c.toNat ∧ c.toNat ≤ 122) ∨
        48 ≤ c.toNat ∧ c.toNat ≤ 57 at letterOrDigit
      omega
    · rw [of_decide_eq_true underscore]
      decide
  simp only [isBlank, Span.cover, blankSpans, Span.holds, List.any_cons, List.any_nil,
    Bool.or_false, Bool.or_eq_false_iff, Bool.and_eq_false_iff, decide_eq_false_iff_not]
  omega

theorem not_mem_of_isIdentifier {s : String} {c : Char} (h : isIdentifier s = true)
    (other : continuesIdentifier c = false) : c ∉ s.toList := by
  intro mem
  rw [continuesIdentifier_of_mem h mem] at other
  contradiction

theorem tight_of_isIdentifier {s : String} (h : isIdentifier s = true) : Tight s :=
  ⟨fun _ first => isBlank_of_continues (continuesIdentifier_of_mem h (List.mem_of_mem_head? first)),
    fun _ last => isBlank_of_continues (continuesIdentifier_of_mem h (List.mem_of_getLast? last))⟩

theorem not_isBlankText_of_around {s padded : String} (h : isIdentifier s = true)
    (around : Around s padded) : isBlankText padded = false := by
  obtain ⟨c, mem⟩ := List.exists_mem_of_ne_nil s.toList fun none =>
    isIdentifier_ne_empty h (String.toList_eq_nil_iff.mp none)
  have dark := isBlank_of_continues (continuesIdentifier_of_mem h mem)
  exact List.all_eq_false.mpr ⟨c, (mem_iff_of_around around dark).mpr mem, by simp [dark]⟩

end ModelMigration
