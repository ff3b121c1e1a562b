import ModelMigration.Json.Value

/-!
# Written texts are read back

Reading behind the opening quote of a written text gives the text and stops right behind its
closing quote, whatever follows. So a written text ends where it ends: no two different texts,
each with something behind it, make the same characters.
-/

namespace ModelMigration.Json

/-! ## Control characters -/

theorem unitDigits_map_hexValue? {n : Nat} (control : n < 0x20) :
    (unitDigits n).map hexValue? = [some 0, some 0, some (n / 16), some (n % 16)] := by
  have all : ∀ k : Fin 0x20,
      (unitDigits k).map hexValue? = [some 0, some 0, some (k.val / 16), some (k.val % 16)] := by
    decide
  exact all ⟨n, control⟩

theorem hexUnit_unitDigits {n : Nat} (control : n < 0x20) (rest : List Char) :
    hexUnit (unitDigits n ++ rest) = .ok (n, rest) := by
  have values := unitDigits_map_hexValue? control
  obtain ⟨a, others, digits, ha, values⟩ := List.map_eq_cons_iff.mp values
  obtain ⟨b, others, rfl, hb, values⟩ := List.map_eq_cons_iff.mp values
  obtain ⟨c, others, rfl, hc, values⟩ := List.map_eq_cons_iff.mp values
  obtain ⟨d, others, rfl, hd, values⟩ := List.map_eq_cons_iff.mp values
  obtain rfl := List.map_eq_nil_iff.mp values
  have whole : ((0 * 16 + 0) * 16 + n / 16) * 16 + n % 16 = n := by omega
  simp only [digits, hexUnit, List.cons_append, List.nil_append, ha, hb, hc, hd, whole]

theorem escape_unitDigits {c : Char} (control : isControl c = true) (rest : List Char) :
    escape ('u' :: (unitDigits c.toNat ++ rest)) = .ok (c, rest) := by
  have small : c.toNat < 0x20 := by simpa [isControl] using control
  have notTrailing : isTrailing c.toNat = false := by simp [isTrailing]; omega
  have notLeading : isLeading c.toNat = false := by simp [isLeading]; omega
  simp only [escape, hexUnit_unitDigits small, bind, Except.bind, notTrailing, notLeading,
    Bool.false_eq_true, if_false, Char.ofNat_toNat]

/-! ## Whole texts -/

theorem textFrom_escaped_append (fuel : Nat) (c : Char) (cs : List Char) :
    textFrom (fuel + 1) (escaped c ++ cs) =
      (do let (ds, rest) ← textFrom fuel cs; .ok (c :: ds, rest)) := by
  unfold escaped
  split
  case h_8 quote backslash _ _ _ _ _ =>
    by_cases control : isControl c = true
    · simp [control, textFrom, escape_unitDigits control, bind, Except.bind]
    · simp only [control, Bool.false_eq_true, if_false, List.cons_append, List.nil_append, textFrom]
      rw [if_neg quote, if_neg backslash]
  all_goals rfl

theorem escaped_ne_nil (c : Char) : escaped c ≠ [] := by
  unfold escaped
  split <;> try simp
  split <;> simp

theorem length_le_length_flatMap_escaped (cs : List Char) :
    cs.length ≤ (cs.flatMap escaped).length := by
  induction cs with
  | nil => simp
  | cons c cs ih =>
      have := List.length_pos_iff.mpr (escaped_ne_nil c)
      simp only [List.flatMap_cons, List.length_append, List.length_cons]
      omega

theorem textFrom_flatMap_escaped {fuel : Nat} {cs : List Char} (enough : cs.length < fuel)
    (rest : List Char) : textFrom fuel (cs.flatMap escaped ++ '"' :: rest) = .ok (cs, rest) := by
  induction cs generalizing fuel with
  | nil =>
      obtain ⟨fuel, rfl⟩ : ∃ n, fuel = n + 1 := ⟨fuel - 1, by simp at enough; omega⟩
      simp [textFrom]
  | cons c cs ih =>
      obtain ⟨fuel, rfl⟩ : ∃ n, fuel = n + 1 := ⟨fuel - 1, by simp at enough; omega⟩
      have later := @ih fuel (by simpa using enough)
      rw [List.flatMap_cons, List.append_assoc, textFrom_escaped_append, later]
      rfl

/-- A written text is read back, and nothing behind it is touched. -/
theorem textBody_flatMap_escaped (s : String) (rest : List Char) :
    textBody (s.toList.flatMap escaped ++ '"' :: rest) = .ok (s, rest) := by
  have enough : s.toList.length < (s.toList.flatMap escaped ++ '"' :: rest).length := by
    have := length_le_length_flatMap_escaped s.toList
    simp only [List.length_append, List.length_cons]
    omega
  simp only [textBody, textFrom_flatMap_escaped enough, bind, Except.bind, String.ofList_toList]

/-- A written text shows where it ends. -/
theorem written_append_inj {s t : String} {xs ys : List Char}
    (same : written s ++ xs = written t ++ ys) : s = t ∧ xs = ys := by
  simp only [written, List.cons_append, List.append_assoc, List.nil_append, List.cons.injEq,
    true_and] at same
  -- Reading the same characters gives one text and one rest.
  have left := textBody_flatMap_escaped s xs
  rw [same, textBody_flatMap_escaped t ys] at left
  injection left with pair
  exact ⟨(congrArg Prod.fst pair).symm, (congrArg Prod.snd pair).symm⟩

end ModelMigration.Json
