import ModelMigration.Proofs.Json.Grammar

/-!
# Values of any form are passed over

Whatever value the grammar allows, passing over it stops right behind it: numbers of any size,
escapes of half a pair, and brackets of any depth. The proof follows the grammar, counting the steps
that each part takes.
-/

namespace ModelMigration.Json

variable {raw cs rest gap : List Char}

/-! ## White space -/

theorem skipSpace_append (spacing : Spacing gap) (cs : List Char) :
    skipSpace (gap ++ cs) = skipSpace cs := by
  unfold skipSpace
  rw [List.dropWhile_append_of_pos spacing]

namespace Skip

/-! ## Texts -/

theorem textFrom_of_quotable {fuel : Nat} (quotable : Quotable raw) (enough : raw.length < fuel)
    (rest : List Char) : textFrom fuel (raw ++ '"' :: rest) = .ok rest := by
  induction quotable generalizing fuel with
  | nil =>
      obtain ⟨fuel, rfl⟩ := exists_fuel enough
      simp [textFrom]
  | plain stands behind ih =>
      obtain ⟨fuel, rfl⟩ := exists_fuel enough
      have later := @ih fuel (by simpa using enough)
      simp [textFrom, stands.1, stands.2.1, stands.2.2, later]
  | @short e d raw escape behind ih =>
      obtain ⟨fuel, rfl⟩ := exists_fuel enough
      have later := @ih fuel (by simp at enough; omega)
      have notUnit : e ≠ 'u' := by
        rintro rfl
        contradiction
      simp [textFrom, escape, later]
  | unit digits behind ih =>
      obtain ⟨fuel, rfl⟩ := exists_fuel enough
      have later := @ih fuel (by simp at enough; omega)
      simp [textFrom, hexUnit_append digits, later, bind, Except.bind]

theorem text_of_quotable (quotable : Quotable raw) (rest : List Char) :
    text (raw ++ '"' :: rest) = .ok rest :=
  textFrom_of_quotable quotable (by simp) rest

/-- A key is passed over with its colon. -/
theorem key_of_quotable {before : List Char} (spacing : Spacing gap) (quotable : Quotable raw)
    (spacing' : Spacing before) (rest : List Char) :
    key (gap ++ '"' :: (raw ++ '"' :: (before ++ ':' :: rest))) = .ok rest := by
  unfold key
  rw [skipSpace_spacing spacing (by decide)]
  simp only [text_of_quotable quotable, bind, Except.bind]
  rw [skipSpace_spacing spacing' (by decide)]
  rfl

/-! ## Numbers -/

theorem digitNext_eq_true (digits : Digits cs) (rest : List Char) :
    digitNext (cs ++ rest) = true := by
  cases cs with
  | nil => exact absurd rfl digits.1
  | cons c cs => exact digits.2 c List.mem_cons_self

theorem dropWhile_digits (digits : ∀ c ∈ cs, c.isDigit = true) (ended : digitNext rest = false) :
    (cs ++ rest).dropWhile Char.isDigit = rest := by
  rw [List.dropWhile_append_of_pos digits]
  cases rest with
  | nil => rfl
  | cons c rest => exact List.dropWhile_cons_of_neg (by simpa [digitNext] using ended)

theorem ne_of_ends {c d : Char} (ends : Ends (c :: rest)) (goesOn : endsValue d = false) :
    c ≠ d := by
  rintro rfl
  have ended := ends c rfl
  rw [goesOn] at ended
  contradiction

theorem digitNext_of_ends (ends : Ends rest) : digitNext rest = false := by
  cases rest with
  | nil => rfl
  | cons c rest =>
      have ended := ends c rfl
      rw [digitNext, ← Bool.not_eq_true]
      intro digit
      have other := fun d => ne_of_isDigit (d := d) digit
      simp [endsValue, isSpace_of_isDigit digit, other ',' rfl, other ']' rfl, other '\x7d' rfl]
        at ended

theorem optionalPower_of_power (power : Power cs) (ends : Ends rest) :
    optionalPower (cs ++ rest) = .ok rest := by
  cases power with
  | none =>
      cases rest with
      | nil => rfl
      | cons c rest =>
          simp [optionalPower, ne_of_ends ends (d := 'e') rfl, ne_of_ends ends (d := 'E') rfl]
  | @digits letter sign cs isLetter isSign digits =>
      have passed : Skip.power (sign ++ cs ++ rest) = .ok rest := by
        obtain ⟨c, ds, rfl⟩ := List.exists_cons_of_ne_nil digits.1
        have digit := digits.2 c List.mem_cons_self
        have dropped := dropWhile_digits (fun d mem => digits.2 d (List.mem_cons_of_mem _ mem))
          (digitNext_of_ends ends)
        have unsigned : exponentSign (c :: (ds ++ rest)) = (false, c :: (ds ++ rest)) := by
          simp [exponentSign, ne_of_isDigit digit (d := '+') rfl,
            ne_of_isDigit digit (d := '-') rfl]
        rcases isSign with rfl | rfl | rfl
        · simp [Skip.power, unsigned, digit, dropped]
        · simp [Skip.power, exponentSign, digit, dropped]
        · simp [Skip.power, exponentSign, digit, dropped]
      rcases isLetter with rfl | rfl <;> simpa [optionalPower] using passed

theorem digitNext_of_power (power : Power cs) (ends : Ends rest) :
    digitNext (cs ++ rest) = false := by
  cases power with
  | none => exact digitNext_of_ends ends
  | digits isLetter => rcases isLetter with rfl | rfl <;> rfl

theorem afterWhole_of_fraction {fraction power : List Char} (isFraction : Fraction fraction)
    (isPower : Power power) (ends : Ends rest) :
    afterWhole (fraction ++ (power ++ rest)) = .ok rest := by
  have passed := optionalPower_of_power isPower ends
  cases isFraction with
  | none =>
      cases chars : power ++ rest with
      | nil => simpa [chars, afterWhole] using passed
      | cons c others =>
          have noPoint : c ≠ '.' := by
            rintro rfl
            cases isPower with
            | none =>
                obtain rfl : rest = '.' :: others := by simpa using chars
                exact ne_of_ends ends rfl rfl
            | digits isLetter => rcases isLetter with rfl | rfl <;> simp at chars
          simpa [chars, afterWhole, noPoint] using passed
  | digits digits =>
      simp [afterWhole, digitNext_eq_true digits,
        dropWhile_digits digits.2 (digitNext_of_power isPower ends), passed]

theorem digitNext_of_fraction {fraction power : List Char} (isFraction : Fraction fraction)
    (isPower : Power power) (ends : Ends rest) :
    digitNext (fraction ++ (power ++ rest)) = false := by
  cases isFraction with
  | none => simpa using digitNext_of_power isPower ends
  | digits digits => rfl

theorem exists_digit {whole : List Char} (isWhole : Whole whole) :
    ∃ c others, whole = c :: others ∧ c.isDigit = true := by
  cases isWhole with
  | zero => exact ⟨_, _, rfl, rfl⟩
  | digits noZero digits => exact ⟨_, _, rfl, digits.2 _ List.mem_cons_self⟩

theorem unsigned_of_whole {whole fraction power : List Char} (isWhole : Whole whole)
    (isFraction : Fraction fraction) (isPower : Power power) (ends : Ends rest) :
    unsigned (whole ++ (fraction ++ (power ++ rest))) = .ok rest := by
  have passed := afterWhole_of_fraction isFraction isPower ends
  have ended := digitNext_of_fraction isFraction isPower ends
  cases isWhole with
  | zero => simp [unsigned, ended, passed]
  | digits noZero digits =>
      have dropped := dropWhile_digits (fun d mem => digits.2 d (List.mem_cons_of_mem _ mem)) ended
      simp [unsigned, digits.2 _ List.mem_cons_self, dropped, passed]

/-! ## Parts -/

theorem part_of_word {word : List Char}
    (isWord : word = "null".toList ∨ word = "true".toList ∨ word = "false".toList)
    (spacing : Spacing gap) (rest : List Char) :
    part (gap ++ (word ++ rest)) = .ok (.ended rest) := by
  unfold part
  rw [skipSpace_append spacing]
  rcases isWord with rfl | rfl | rfl <;> rfl

theorem part_of_digit {c : Char} (digit : c.isDigit = true) (spacing : Spacing gap)
    (cs : List Char) :
    part (gap ++ c :: cs) = (do return .ended (← unsigned (c :: cs))) := by
  unfold part
  rw [skipSpace_spacing spacing (isSpace_of_isDigit digit)]
  split
  case h_9 same =>
    cases same
    rw [if_pos digit]
  all_goals simp_all

theorem part_of_numeral (numeral : Numeral cs) (spacing : Spacing gap) (ends : Ends rest) :
    part (gap ++ (cs ++ rest)) = .ok (.ended rest) := by
  obtain ⟨isSign, whole, fraction, power⟩ := numeral
  have passed := unsigned_of_whole whole fraction power ends
  rcases isSign with rfl | rfl
  · obtain ⟨c, others, starts, digit⟩ := exists_digit whole
    simp only [starts, List.nil_append, List.cons_append, List.append_assoc] at passed ⊢
    rw [part_of_digit digit spacing, passed]
    rfl
  · simp only [List.append_assoc, List.cons_append, List.nil_append]
    unfold part
    rw [skipSpace_spacing spacing (by decide)]
    simp only [passed, bind, Except.bind, pure, Except.pure]

theorem part_of_quotable (quotable : Quotable raw) (spacing : Spacing gap) (rest : List Char) :
    part (gap ++ '"' :: (raw ++ '"' :: rest)) = .ok (.ended rest) := by
  unfold part
  rw [skipSpace_spacing spacing (by decide)]
  simp only [text_of_quotable quotable, bind, Except.bind, pure, Except.pure]

theorem part_of_opening {frame : Frame} {c : Char}
    (opens : frame = .list ∧ c = '[' ∨ frame = .object ∧ c = '\x7b') (spacing : Spacing gap)
    (rest : List Char) : part (gap ++ c :: rest) = .ok (.opened frame rest) := by
  unfold part
  rcases opens with ⟨rfl, rfl⟩ | ⟨rfl, rfl⟩
  · rw [skipSpace_spacing spacing (by decide)]
    rfl
  · rw [skipSpace_spacing spacing (by decide)]
    rfl

/-! ## Brackets -/

section Brackets

variable {frame : Frame} (fuel : Nat) (frames : List Frame)

theorem value_of_ended (ended : part cs = .ok (.ended rest)) :
    value (fuel + 1) frames cs = behind fuel true frames rest := by
  rw [value, ended]
  rfl

theorem value_of_opened (opened : part cs = .ok (.opened frame rest)) :
    value (fuel + 1) frames cs = behind fuel false (frame :: frames) rest := by
  rw [value, opened]
  rfl

theorem behind_closing (first : Bool) (spacing : Spacing gap) (rest : List Char) :
    behind (fuel + 1) (!first) (frame :: frames) (gap ++ frame.closing :: rest) =
      behind fuel true frames rest := by
  rw [behind, skipSpace_spacing spacing (by cases frame <;> decide)]
  have noComma : frame.closing ≠ ',' := by cases frame <;> decide
  simp [noComma]

/-- A value of a list follows the opening bracket or a comma. -/
theorem behind_element (first : Bool) {space : List Char} {c : Char} (spacing : Spacing gap)
    (spacing' : Spacing space) (solid : isSpace c = false) (goesOn : c ≠ ']') (rest : List Char) :
    ∃ gap', Spacing gap' ∧ behind (fuel + 1) (!first) (.list :: frames)
      (gap ++ (comma first ++ (space ++ c :: rest))) =
        value fuel (.list :: frames) (gap' ++ c :: rest) := by
  cases first with
  | true =>
      refine ⟨[], spacing_nil, ?_⟩
      rw [behind, skipSpace_append spacing, comma, if_pos rfl, List.nil_append,
        skipSpace_spacing spacing' solid]
      simp [Frame.closing, goesOn, Frame.lead, bind, Except.bind]
  | false =>
      refine ⟨space, spacing', ?_⟩
      rw [behind, comma, if_neg Bool.false_ne_true, List.singleton_append,
        skipSpace_spacing spacing (by decide)]
      simp [Frame.lead, bind, Except.bind]

/-- A member of an object follows the opening bracket or a comma. -/
theorem behind_member (first : Bool) {space before : List Char} (spacing : Spacing gap)
    (spacing' : Spacing space) (quotable : Quotable raw) (spacingBefore : Spacing before)
    (rest : List Char) :
    behind (fuel + 1) (!first) (.object :: frames)
      (gap ++ (comma first ++ (space ++ '"' :: (raw ++ '"' :: (before ++ ':' :: rest))))) =
        value fuel (.object :: frames) rest := by
  cases first with
  | true =>
      have passed := key_of_quotable spacing_nil quotable spacingBefore rest
      rw [behind, skipSpace_append spacing, comma, if_pos rfl, List.nil_append,
        skipSpace_spacing spacing' (by decide)]
      rw [List.nil_append] at passed
      simp [Frame.closing, Frame.lead, passed, bind, Except.bind]
  | false =>
      have passed := key_of_quotable spacing' quotable spacingBefore rest
      rw [behind, comma, if_neg Bool.false_ne_true, List.singleton_append,
        skipSpace_spacing spacing (by decide)]
      simp [Frame.lead, passed, bind, Except.bind]

end Brackets

/-! ## Values -/

/-- Whether the rest of a bracket is passed over, in not many more steps than it has characters. -/
def PassesRest (frame : Frame) (first : Bool) (cs : List Char) : Prop :=
  ∃ used, (if first then used else used + 1) ≤ 2 * cs.length ∧ ∀ fuel frames rest,
    behind (fuel + used) (!first) (frame :: frames) (cs ++ rest) = behind fuel true frames rest

/-- Whether a part of a text is passed over. -/
def Passes : Part → List Char → Prop
  | .value, cs => ∃ used, used ≤ 2 * cs.length ∧ ∀ fuel frames gap rest, Spacing gap → Ends rest →
      value (fuel + used) frames (gap ++ (cs ++ rest)) = behind fuel true frames rest
  | .items first _, cs => PassesRest .list first cs
  | .members first _, cs => PassesRest .object first cs

theorem passes_of_ended {c : Char} (ended : ∀ gap rest, Spacing gap → Ends rest →
    part (gap ++ ((c :: cs) ++ rest)) = .ok (.ended rest)) : Passes .value (c :: cs) := by
  refine ⟨1, by simp; omega, fun fuel frames gap rest spacing ends => ?_⟩
  exact value_of_ended fuel frames (ended gap rest spacing ends)

theorem passes_of_opened {frame : Frame} {c : Char}
    (opens : frame = .list ∧ c = '[' ∨ frame = .object ∧ c = '\x7b')
    (items : PassesRest frame true cs) : Passes .value (c :: cs) := by
  obtain ⟨used, few, passed⟩ := items
  refine ⟨used + 1, by simp at few ⊢; omega, fun fuel frames gap rest spacing _ => ?_⟩
  rw [List.cons_append, ← Nat.add_assoc, value_of_opened _ frames (part_of_opening opens spacing _)]
  exact passed fuel frames rest

theorem passesRest_closing (frame : Frame) (first : Bool) (spacing : Spacing gap) :
    PassesRest frame first (gap ++ [frame.closing]) := by
  refine ⟨1, ?_, fun fuel frames rest => ?_⟩
  · have length : (gap ++ [frame.closing]).length = gap.length + 1 := by simp
    rw [length]
    split <;> omega
  · rw [List.append_assoc, List.singleton_append]
    exact behind_closing fuel frames first spacing rest

/-- A value of any form is passed over, whatever brackets it stands in. -/
theorem passes_of_formed {what : Part} (formed : Formed what cs) : Passes what cs := by
  induction formed with
  | word isWord =>
      rcases isWord with rfl | rfl | rfl
      · exact passes_of_ended fun gap rest spacing _ => part_of_word (.inl rfl) spacing rest
      · exact passes_of_ended fun gap rest spacing _ => part_of_word (.inr (.inl rfl)) spacing rest
      · exact passes_of_ended fun gap rest spacing _ => part_of_word (.inr (.inr rfl)) spacing rest
  | number numeral =>
      obtain ⟨c, others, rfl, _⟩ := exists_start (.number numeral)
      exact passes_of_ended fun gap rest spacing ends => part_of_numeral numeral spacing ends
  | @text raw quotable =>
      refine passes_of_ended fun gap rest spacing _ => ?_
      have passed := part_of_quotable quotable spacing rest
      simpa using passed
  | list items ih => exact passes_of_opened (.inl ⟨rfl, rfl⟩) ih
  | object items ih => exact passes_of_opened (.inr ⟨rfl, rfl⟩) ih
  | closeList spacing => exact passesRest_closing .list _ spacing
  | closeObject spacing => exact passesRest_closing .object _ spacing
  | @item first values gap space v cs spacing spacing' value behind ihValue ihBehind =>
      obtain ⟨used, few, passed⟩ := ihValue
      obtain ⟨used', few', passed'⟩ := ihBehind
      refine ⟨used' + used + 1, ?_, fun fuel frames rest => ?_⟩
      · cases first <;> simp [comma] at few' ⊢ <;> omega
      · obtain ⟨c, others, rfl, solid, goesOn⟩ := exists_start value
        obtain ⟨gap', spacingNext, next⟩ := behind_element (fuel + used' + used) frames
          first spacing spacing' solid goesOn (others ++ (cs ++ rest))
        have later := passed (fuel + used') (.list :: frames) gap' (cs ++ rest) spacingNext
          (ends_of_items behind rest)
        simp only [List.append_assoc, List.cons_append] at next later ⊢
        rw [← Nat.add_assoc, ← Nat.add_assoc, next, later]
        exact passed' fuel frames rest
  | @member first members gap space raw before after v cs spacing spacing' key spacingBefore
      spacingAfter value behind ihValue ihBehind =>
      obtain ⟨used, few, passed⟩ := ihValue
      obtain ⟨used', few', passed'⟩ := ihBehind
      refine ⟨used' + used + 1, ?_, fun fuel frames rest => ?_⟩
      · cases first <;> simp [comma] at few' ⊢ <;> omega
      · have next := behind_member (fuel + used' + used) frames first spacing spacing' key
          spacingBefore (after ++ (v ++ (cs ++ rest)))
        have later := passed (fuel + used') (.object :: frames) after (cs ++ rest) spacingAfter
          (ends_of_members behind rest)
        simp only [List.append_assoc, List.cons_append] at next later ⊢
        rw [← Nat.add_assoc, ← Nat.add_assoc, next, later]
        exact passed' fuel frames rest

end Skip

/-- Passing over a value stops right behind it. -/
theorem skipValue_of_formed (formed : Formed .value cs) (spacing : Spacing gap) (ends : Ends rest) :
    skipValue (gap ++ (cs ++ rest)) = .ok rest := by
  obtain ⟨used, few, passed⟩ := Skip.passes_of_formed formed
  have enough : used ≤ 2 * (gap ++ (cs ++ rest)).length + 2 := by
    simp only [List.length_append]
    omega
  obtain ⟨fuel, same⟩ := Nat.exists_eq_add_of_le' enough
  rw [skipValue, same, passed fuel [] gap rest spacing ends]
  simp [Skip.behind]

end ModelMigration.Json
