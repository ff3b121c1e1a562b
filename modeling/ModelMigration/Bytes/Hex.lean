/-!
# Bytes in base sixteen

Each byte is written as two digits, the letters in lower case.
-/

namespace ModelMigration.Bytes

/-- The digit of a value below sixteen. -/
def hexDigit (n : Nat) : Char := if n < 10 then Char.ofNat (48 + n) else Char.ofNat (87 + n)

/-- The two digits of a byte. -/
def hexPair (b : UInt8) : List Char := [hexDigit (b.toNat / 16), hexDigit (b.toNat % 16)]

/-- The digits of all the bytes, in order. -/
def hex (bytes : List UInt8) : List Char := bytes.flatMap hexPair

/-- The digit is one of `0` to `9` and `a` to `f`, and tells the value. -/
theorem hexDigit_inj {m n : Nat} (hm : m < 16) (hn : n < 16) (same : hexDigit m = hexDigit n) :
    m = n := by
  have all : ∀ a : Fin 16, ∀ b : Fin 16, hexDigit a = hexDigit b → a = b := by decide
  exact congrArg Fin.val (all ⟨m, hm⟩ ⟨n, hn⟩ same)

theorem hexPair_inj {a b : UInt8} (same : hexPair a = hexPair b) : a = b := by
  have ha := a.toNat_lt
  have hb := b.toNat_lt
  simp only [hexPair, List.cons.injEq, and_true] at same
  have high := hexDigit_inj (by omega) (by omega) same.1
  have low := hexDigit_inj (by omega) (by omega) same.2
  exact UInt8.toNat_inj.mp (by omega)

theorem hex_inj {xs ys : List UInt8} (same : hex xs = hex ys) : xs = ys := by
  induction xs generalizing ys with
  | nil =>
      cases ys with
      | nil => rfl
      | cons y ys => simp [hex, hexPair] at same
  | cons x xs ih =>
      cases ys with
      | nil => simp [hex, hexPair] at same
      | cons y ys =>
          have parts : hexPair x = hexPair y ∧ hex xs = hex ys := List.append_inj same rfl
          rw [hexPair_inj parts.1, ih parts.2]

end ModelMigration.Bytes
