import ModelMigration.Text.Casing

/-!
# Characters that lower case brings in

Lower case keeps a character or puts in one from a list that the case map tells, so a text in lower
case has no other characters than these and its own.
-/

namespace ModelMigration.Text

theorem toNat_ofNat_of_valid {n : Nat} (valid : n.isValidChar) : (Char.ofNat n).toNat = n := by
  unfold Char.ofNat
  rw [dif_pos valid]
  rfl

/-- Whether a character can be in the lower-case form of another one: the forms that have a rule of
their own, and what lies between the ends of a shifted span. -/
def isLowerForm (c : Char) : Bool :=
  c ∈ ['i', '\u0307', 'σ', 'ς'] ||
    lowercaseShifts.any fun s =>
      s.span.first + s.distance ≤ c.toNat && c.toNat ≤ s.span.last + s.distance

theorem isLowerForm_of_holds {s : Shift} {c : Char} (shift : s ∈ lowercaseShifts)
    (holds : s.span.holds c.toNat = true) :
    isLowerForm (Char.ofNat ((c.toNat : Int) + s.distance).toNat) = true := by
  -- No shift of the table leads to a number in front of the first or one that is no character.
  have table : ∀ s ∈ lowercaseShifts, (0 : Int) ≤ s.span.first + s.distance ∧
      ((s.span.last : Int) + s.distance < 0xD800 ∨
        0xE000 ≤ (s.span.first : Int) + s.distance ∧
          (s.span.last : Int) + s.distance < 0x110000) := by
    decide +kernel
  obtain ⟨low, range⟩ := table s shift
  simp only [Span.holds, Bool.and_eq_true, decide_eq_true_eq] at holds
  have valid : ((c.toNat : Int) + s.distance).toNat.isValidChar := by
    rcases range with below | above
    · left
      omega
    · right
      omega
  rw [isLowerForm, Bool.or_eq_true, List.any_eq_true]
  refine .inr ⟨s, shift, ?_⟩
  rw [toNat_ofNat_of_valid valid, Bool.and_eq_true, decide_eq_true_eq, decide_eq_true_eq]
  omega

theorem mem_lowercaseForm {c lower : Char} (mem : lower ∈ lowercaseForm c) :
    lower = c ∨ isLowerForm lower = true := by
  unfold lowercaseForm at mem
  split at mem
  · right
    rcases List.mem_cons.mp mem with rfl | mem
    · rfl
    · rw [List.mem_singleton.mp mem]
      rfl
  · rw [List.mem_singleton] at mem
    subst mem
    unfold Shift.partner?
    cases found : lowercaseShifts.find? fun s => s.span.holds c.toNat with
    | none => exact .inl rfl
    | some s =>
        right
        have holds := List.find?_some found
        exact isLowerForm_of_holds (List.mem_of_find?_eq_some found) holds

theorem mem_lowerAfter {before cs : List Char} {lower : Char} (mem : lower ∈ lowerAfter before cs) :
    lower ∈ cs ∨ isLowerForm lower = true := by
  induction cs generalizing before with
  | nil => simp [lowerAfter] at mem
  | cons c cs ih =>
      rw [lowerAfter, List.mem_append] at mem
      rcases mem with first | rest
      · split at first
        · right
          rw [List.mem_singleton] at first
          subst first
          split <;> rfl
        · rcases mem_lowercaseForm first with rfl | form
          · exact .inl List.mem_cons_self
          · exact .inr form
      · exact (ih rest).imp (List.mem_cons_of_mem _) id

/-- A character that is its own lower case stays where it is. -/
theorem mem_lowerAfter_of_fixed {cs : List Char} {c : Char} (noSigma : c ≠ 'Σ')
    (fixed : lowercaseForm c = [c]) (before : List Char) (mem : c ∈ cs) :
    c ∈ lowerAfter before cs := by
  induction cs generalizing before with
  | nil => contradiction
  | cons d cs ih =>
      rw [lowerAfter, List.mem_append]
      rcases List.mem_cons.mp mem with rfl | later
      · rw [if_neg noSigma, fixed]
        exact .inl List.mem_cons_self
      · exact .inr (ih (d :: before) later)

/-- Lower case brings in no character that is no lower-case form. -/
theorem not_mem_lowered {text : String} {c : Char} (absent : c ∉ text.toList)
    (other : isLowerForm c = false) : c ∉ (lowered text).toList := by
  intro mem
  rw [lowered, String.toList_ofList] at mem
  rcases mem_lowerAfter mem with inText | form
  · exact absent inText
  · rw [form] at other
    contradiction

end ModelMigration.Text
