import Mathlib.Tactic.SplitIfs
import ModelMigration.Bytes.Text

/-!
# The order of texts and of their bytes

Texts are ordered by their characters, and so are their bytes: a character of a longer form starts
with a greater byte, and in forms of one length the bits of a character stand in order.
-/

namespace ModelMigration

/-- Of two texts of one length the lesser one is less with anything behind it, too. -/
theorem Text.append_lt_append {cs ds : List Char} (length : cs.length = ds.length) (h : cs < ds)
    (xs ys : List Char) : cs ++ xs < ds ++ ys := by
  induction cs generalizing ds with
  | nil =>
      obtain rfl := List.length_eq_zero_iff.mp length.symm
      cases h
  | cons c cs ih =>
      cases ds with
      | nil => cases h
      | cons d ds =>
          rw [List.cons_append, List.cons_append, List.cons_lt_cons_iff]
          rcases List.cons_lt_cons_iff.mp h with less | ⟨same, rest⟩
          · exact .inl less
          · exact .inr ⟨same, ih (Nat.succ.inj length) rest⟩

namespace Bytes

theorem ofText_eq (s : String) : ofText s = s.toList.flatMap String.utf8EncodeChar := by
  have encoded : s.toByteArray = (s.toList.flatMap String.utf8EncodeChar).toByteArray := by
    rw [← List.utf8Encode, String.utf8Encode_toList]
  rw [ofText, String.toUTF8, encoded]
  simp

/-- The digits to the base 64 of numbers of twenty-one bits: each byte of a character holds one. -/
theorem digits_lt {m n : Nat} (h : m < n) (held : n < 0x200000) :
    m / 262144 % 8 < n / 262144 % 8 ∨ m / 262144 % 8 = n / 262144 % 8 ∧
      (m / 4096 % 64 < n / 4096 % 64 ∨ m / 4096 % 64 = n / 4096 % 64 ∧
        (m / 64 % 64 < n / 64 % 64 ∨ m / 64 % 64 = n / 64 % 64 ∧ m % 64 < n % 64)) := by
  have whole : ∀ k : Nat, k < 0x200000 →
      k = 262144 * (k / 262144 % 8) + 4096 * (k / 4096 % 64) + 64 * (k / 64 % 64) + k % 64 := by
    intro k held
    omega
  have := whole m (Nat.lt_trans h held)
  have := whole n held
  omega

theorem utf8EncodeChar_append_lt {c d : Char} (h : c < d) (xs ys : List UInt8) :
    String.utf8EncodeChar c ++ xs < String.utf8EncodeChar d ++ ys := by
  have less : c.val.toNat < d.val.toNat := h
  have last : d.val.toNat < 0x110000 := by
    rcases d.valid with low | ⟨_, high⟩ <;> omega
  have digits := digits_lt less (by omega)
  -- A byte holds its mark and its digit: nothing is carried out of it.
  have held : ∀ n width mark : Nat, 0 < width → width + mark ≤ 256 →
      (n % width + mark) % 256 = n % width + mark := by
    intro n width mark positive fits
    have := Nat.mod_lt n positive
    exact Nat.mod_eq_of_lt (by omega)
  simp only [String.utf8EncodeChar]
  split_ifs <;>
    simp only [List.cons_append, List.nil_append, List.cons_lt_cons_iff, UInt8.lt_iff_toNat_lt,
      ← UInt8.toNat_inj, UInt8.toNat_ofNat', Nat.reducePow, held _ 64 128 (by decide) (by decide),
      held _ 32 192 (by decide) (by decide), held _ 16 224 (by decide) (by decide),
      held _ 8 240 (by decide) (by decide)] <;>
    omega

theorem flatMap_utf8EncodeChar_lt {cs ds : List Char} (h : cs < ds) :
    cs.flatMap String.utf8EncodeChar < ds.flatMap String.utf8EncodeChar := by
  induction cs generalizing ds with
  | nil =>
      cases ds with
      | nil => cases h
      | cons d ds =>
          rw [List.flatMap_nil, List.flatMap_cons]
          cases form : String.utf8EncodeChar d with
          | nil => exact absurd form String.utf8EncodeChar_ne_nil
          | cons byte bytes => exact .nil
  | cons c cs ih =>
      cases ds with
      | nil => cases h
      | cons d ds =>
          rw [List.flatMap_cons, List.flatMap_cons]
          rcases List.cons_lt_cons_iff.mp h with less | ⟨rfl, rest⟩
          · exact utf8EncodeChar_append_lt less _ _
          · exact List.append_left_lt (ih rest)

theorem ofText_lt_ofText {s t : String} (h : s < t) : ofText s < ofText t := by
  rw [ofText_eq, ofText_eq]
  exact flatMap_utf8EncodeChar_lt (String.lt_iff.mp h)

theorem ofText_lt_iff {s t : String} : ofText s < ofText t ↔ s < t := by
  refine ⟨fun less => Classical.byContradiction fun notLess => ?_, ofText_lt_ofText⟩
  by_cases greater : t < s
  · exact List.lt_asymm less (ofText_lt_ofText greater)
  · obtain rfl := String.le_antisymm (String.not_lt.mp greater) (String.not_lt.mp notLess)
    exact List.lt_irrefl _ less

end Bytes

end ModelMigration
