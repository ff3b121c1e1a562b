import ModelMigration.Proofs.Json.Indented

/-!
# The grammar of JSON texts

What characters make a JSON text, said apart from the readers: white space between all tokens, any
spelling of the characters of a text, numbers of any size, and brackets of any depth. A text that is
spelled is read as what it spells.
-/

namespace ModelMigration.Json

/-- Fuel that is more than what it is counted by can be spent. -/
theorem exists_fuel {n fuel : Nat} (enough : n < fuel) : ∃ left, fuel = left + 1 :=
  Nat.exists_eq_add_one_of_ne_zero (Nat.ne_zero_of_lt enough)

/-! ## The characters of texts -/

/-- Four digits in base sixteen and their value. -/
inductive HexUnit : List Char → Nat → Prop
  | digits {a b c d : Char} {p q r s : Nat} (first : hexValue? a = some p)
      (second : hexValue? b = some q) (third : hexValue? c = some r)
      (fourth : hexValue? d = some s) :
      HexUnit [a, b, c, d] (((p * 16 + q) * 16 + r) * 16 + s)

/-- Whether a character stands for itself between quotes. -/
def Stands (c : Char) : Prop := c ≠ '"' ∧ c ≠ '\\' ∧ isControl c = false

instance (c : Char) : Decidable (Stands c) :=
  inferInstanceAs (Decidable (c ≠ '"' ∧ c ≠ '\\' ∧ isControl c = false))

/-- Whether characters may stand between quotes; escapes may be for half a pair. -/
inductive Quotable : List Char → Prop
  | nil : Quotable []
  | plain {c : Char} {raw : List Char} (stands : Stands c) (behind : Quotable raw) :
      Quotable (c :: raw)
  | short {e d : Char} {raw : List Char} (escape : simpleEscape? e = some d)
      (behind : Quotable raw) : Quotable ('\\' :: e :: raw)
  | unit {u raw : List Char} {n : Nat} (digits : HexUnit u n) (behind : Quotable raw) :
      Quotable ('\\' :: 'u' :: (u ++ raw))

/-- Characters between quotes and the characters that they spell. -/
inductive Spells : List Char → List Char → Prop
  | nil : Spells [] []
  | plain {c : Char} {raw cs : List Char} (stands : Stands c) (behind : Spells raw cs) :
      Spells (c :: raw) (c :: cs)
  | short {e d : Char} {raw cs : List Char} (escape : simpleEscape? e = some d)
      (behind : Spells raw cs) : Spells ('\\' :: e :: raw) (d :: cs)
  | unit {u raw cs : List Char} {n : Nat} (digits : HexUnit u n) (noLeading : isLeading n = false)
      (noTrailing : isTrailing n = false) (behind : Spells raw cs) :
      Spells ('\\' :: 'u' :: (u ++ raw)) (Char.ofNat n :: cs)
  | pair {u v raw cs : List Char} {m n : Nat} (digits : HexUnit u m) (digits' : HexUnit v n)
      (leading : isLeading m = true) (trailing : isTrailing n = true) (behind : Spells raw cs) :
      Spells ('\\' :: 'u' :: (u ++ '\\' :: 'u' :: (v ++ raw))) (pair m n :: cs)

variable {raw cs rest gap : List Char}

theorem hexUnit_append {u : List Char} {n : Nat} (digits : HexUnit u n) (rest : List Char) :
    hexUnit (u ++ rest) = .ok (n, rest) := by
  cases digits with
  | digits first second third fourth =>
      simp only [hexUnit, List.cons_append, List.nil_append, first, second, third, fourth]

theorem escape_short {e d : Char} (short : simpleEscape? e = some d) (rest : List Char) :
    escape (e :: rest) = .ok (d, rest) := by
  have notUnit : e ≠ 'u' := by
    rintro rfl
    contradiction
  simp [escape, short]

theorem escape_unit {u : List Char} {n : Nat} (digits : HexUnit u n)
    (noLeading : isLeading n = false) (noTrailing : isTrailing n = false) (rest : List Char) :
    escape ('u' :: (u ++ rest)) = .ok (Char.ofNat n, rest) := by
  simp only [escape, hexUnit_append digits, bind, Except.bind, noLeading, noTrailing,
    Bool.false_eq_true, if_false]

theorem escape_pair {u v : List Char} {m n : Nat} (digits : HexUnit u m) (digits' : HexUnit v n)
    (leading : isLeading m = true) (trailing : isTrailing n = true) (rest : List Char) :
    escape ('u' :: (u ++ '\\' :: 'u' :: (v ++ rest))) = .ok (pair m n, rest) := by
  have noTrailing : isTrailing m = false := by
    simp only [isLeading, isTrailing, Bool.and_eq_true, Bool.and_eq_false_iff,
      decide_eq_true_eq, decide_eq_false_iff_not] at leading ⊢
    omega
  simp only [escape, hexUnit_append digits, hexUnit_append digits', bind, Except.bind, noTrailing,
    leading, trailing, secondUnit, Bool.false_eq_true, if_false, if_true]

/-- Reading goes on behind the closing quote with the characters that were spelled. -/
theorem textFrom_of_spells {fuel : Nat} (spells : Spells raw cs) (enough : raw.length < fuel)
    (rest : List Char) : textFrom fuel (raw ++ '"' :: rest) = .ok (cs, rest) := by
  induction spells generalizing fuel with
  | nil =>
      obtain ⟨fuel, rfl⟩ := exists_fuel enough
      simp [textFrom]
  | plain stands behind ih =>
      obtain ⟨fuel, rfl⟩ := exists_fuel enough
      have later := @ih fuel (by simpa using enough)
      simp [textFrom, stands.1, stands.2.1, stands.2.2, later, bind, Except.bind]
  | short short behind ih =>
      obtain ⟨fuel, rfl⟩ := exists_fuel enough
      have later := @ih fuel (by simp at enough; omega)
      simp [textFrom, escape_short short, later, bind, Except.bind]
  | unit digits noLeading noTrailing behind ih =>
      obtain ⟨fuel, rfl⟩ := exists_fuel enough
      have later := @ih fuel (by simp at enough; omega)
      simp [textFrom, escape_unit digits noLeading noTrailing, later, bind, Except.bind]
  | pair digits digits' leading trailing behind ih =>
      obtain ⟨fuel, rfl⟩ := exists_fuel enough
      have later := @ih fuel (by simp at enough; omega)
      simp [textFrom, escape_pair digits digits' leading trailing, later, bind, Except.bind]

theorem textBody_of_spells {s : String} (spells : Spells raw s.toList) (rest : List Char) :
    textBody (raw ++ '"' :: rest) = .ok (s, rest) := by
  have enough : raw.length < (raw ++ '"' :: rest).length := by simp
  simp only [textBody, textFrom_of_spells spells enough, bind, Except.bind, String.ofList_toList]

theorem Spells.quotable (spells : Spells raw cs) : Quotable raw := by
  induction spells with
  | nil => exact .nil
  | plain stands _ ih => exact .plain stands ih
  | short escape _ ih => exact .short escape ih
  | unit digits _ _ _ ih => exact .unit digits ih
  | pair digits digits' _ _ _ ih => exact .unit digits (.unit digits' ih)

/-- Characters that stand for themselves spell themselves. -/
theorem spells_self (stand : ∀ c ∈ cs, Stands c) : Spells cs cs := by
  induction cs with
  | nil => exact .nil
  | cons c cs ih =>
      exact .plain (stand c List.mem_cons_self)
        (ih fun d mem => stand d (List.mem_cons_of_mem _ mem))

/-! ## Numbers -/

theorem ne_of_isDigit {c d : Char} (digit : c.isDigit = true) (other : d.isDigit = false) :
    c ≠ d := by
  rintro rfl
  rw [digit] at other
  contradiction

theorem isSpace_of_isDigit {c : Char} (digit : c.isDigit = true) : isSpace c = false := by
  have other := fun d => ne_of_isDigit (d := d) digit
  simp [isSpace, other ' ' rfl, other '\n' rfl, other '\t' rfl, other '\r' rfl]

/-- Whether there are digits and nothing else. -/
def Digits (cs : List Char) : Prop := cs ≠ [] ∧ ∀ c ∈ cs, c.isDigit = true

/-- The whole part of a number, without zeros in front. -/
inductive Whole : List Char → Prop
  | zero : Whole ['0']
  | digits {c : Char} {cs : List Char} (noZero : c ≠ '0') (digits : Digits (c :: cs)) :
      Whole (c :: cs)

/-- The fraction of a number, if it has one. -/
inductive Fraction : List Char → Prop
  | none : Fraction []
  | digits {cs : List Char} (digits : Digits cs) : Fraction ('.' :: cs)

/-- The power of ten of a number, if it has one. -/
inductive Power : List Char → Prop
  | none : Power []
  | digits {letter : Char} {sign cs : List Char} (isLetter : letter = 'e' ∨ letter = 'E')
      (isSign : sign = [] ∨ sign = ['+'] ∨ sign = ['-']) (digits : Digits cs) :
      Power (letter :: (sign ++ cs))

/-- Whether characters are a number, whatever its size. -/
inductive Numeral : List Char → Prop
  | parts {sign w f p : List Char} (isSign : sign = [] ∨ sign = ['-']) (whole : Whole w)
      (fraction : Fraction f) (power : Power p) : Numeral (sign ++ (w ++ (f ++ p)))

/-! ## Values -/

/-- What is said of characters: that they are a value, or the rest of a list or of an object behind
its opening bracket or behind an item, with the items in it. -/
inductive Part where
  | value
  | items (first : Bool) (values : List (List Char))
  | members (first : Bool) (members : List (List Char × List Char))

/-- Whether characters are a part of a JSON text. The rest of a bracket goes on with a comma, unless
the bracket was opened just before, and has the characters of each item without the white space
around it; of a member also those between the quotes of its key. -/
inductive Formed : Part → List Char → Prop
  | word {cs : List Char}
      (word : cs = "null".toList ∨ cs = "true".toList ∨ cs = "false".toList) : Formed .value cs
  | number {cs : List Char} (numeral : Numeral cs) : Formed .value cs
  | text {raw : List Char} (quotable : Quotable raw) : Formed .value ('"' :: (raw ++ ['"']))
  | list {values : List (List Char)} {cs : List Char} (items : Formed (.items true values) cs) :
      Formed .value ('[' :: cs)
  | object {members : List (List Char × List Char)} {cs : List Char}
      (items : Formed (.members true members) cs) : Formed .value ('\x7b' :: cs)
  | closeList {first : Bool} {gap : List Char} (spacing : Spacing gap) :
      Formed (.items first []) (gap ++ [']'])
  | item {first : Bool} {values : List (List Char)} {gap space v cs : List Char}
      (spacing : Spacing gap) (spacing' : Spacing space) (value : Formed .value v)
      (behind : Formed (.items false values) cs) :
      Formed (.items first (v :: values)) (gap ++ (comma first ++ (space ++ (v ++ cs))))
  | closeObject {first : Bool} {gap : List Char} (spacing : Spacing gap) :
      Formed (.members first []) (gap ++ ['\x7d'])
  | member {first : Bool} {members : List (List Char × List Char)}
      {gap space raw before after v cs : List Char} (spacing : Spacing gap)
      (spacing' : Spacing space) (key : Quotable raw) (spacingBefore : Spacing before)
      (spacingAfter : Spacing after) (value : Formed .value v)
      (behind : Formed (.members false members) cs) :
      Formed (.members first ((raw, v) :: members))
        (gap ++ (comma first ++ (space ++ ('"' :: (raw ++ '"' :: (before ++ ':' ::
          (after ++ (v ++ cs))))))))

/-- An element of a list may have no white space around it. -/
theorem Formed.compactItem {first : Bool} {values : List (List Char)} {v cs : List Char}
    (value : Formed .value v) (behind : Formed (.items false values) cs) :
    Formed (.items first (v :: values)) (comma first ++ (v ++ cs)) :=
  .item spacing_nil spacing_nil value behind

/-- A member of an object may have no white space around its parts. -/
theorem Formed.compactMember {first : Bool} {members : List (List Char × List Char)}
    {raw v cs : List Char} (key : Quotable raw) (value : Formed .value v)
    (behind : Formed (.members false members) cs) :
    Formed (.members first ((raw, v) :: members))
      (comma first ++ '"' :: (raw ++ '"' :: ':' :: (v ++ cs))) :=
  .member spacing_nil spacing_nil key spacing_nil spacing_nil value behind

/-- Whether a character can stand behind a value. -/
def endsValue (c : Char) : Bool := isSpace c || c = ',' || c = ']' || c = '\x7d'

/-- Whether a value in front cannot go on here. -/
def Ends (rest : List Char) : Prop := ∀ c ∈ rest.head?, endsValue c = true

theorem ends_of_spacing {c : Char} (spacing : Spacing gap) (ends : endsValue c = true)
    (cs : List Char) : Ends (gap ++ c :: cs) := by
  intro d first
  cases gap with
  | nil => simp_all
  | cons e gap =>
      have space := spacing e List.mem_cons_self
      simp_all [endsValue]

theorem ends_of_items {values : List (List Char)} (formed : Formed (.items false values) cs)
    (rest : List Char) : Ends (cs ++ rest) := by
  cases formed with
  | closeList spacing => simpa using ends_of_spacing spacing rfl rest
  | item spacing => simpa [comma] using ends_of_spacing spacing rfl _

theorem ends_of_members {members : List (List Char × List Char)}
    (formed : Formed (.members false members) cs) (rest : List Char) : Ends (cs ++ rest) := by
  cases formed with
  | closeObject spacing => simpa using ends_of_spacing spacing rfl rest
  | member spacing => simpa [comma] using ends_of_spacing spacing rfl _

/-- A value starts with a character of its own. -/
theorem exists_start (formed : Formed .value cs) :
    ∃ c behind, cs = c :: behind ∧ isSpace c = false ∧ c ≠ ']' := by
  cases formed with
  | word word => rcases word with rfl | rfl | rfl <;> exact ⟨_, _, rfl, by decide, by decide⟩
  | number numeral =>
      obtain ⟨isSign, whole, _, _⟩ := numeral
      rcases isSign with rfl | rfl
      · cases whole with
        | zero => exact ⟨_, _, rfl, by decide, by decide⟩
        | @digits c _ _ digits =>
            have digit := digits.2 c List.mem_cons_self
            exact ⟨c, _, rfl, isSpace_of_isDigit digit, ne_of_isDigit digit rfl⟩
      · exact ⟨_, _, rfl, by decide, by decide⟩
  | text quotable => exact ⟨_, _, rfl, by decide, by decide⟩
  | list items => exact ⟨_, _, rfl, by decide, by decide⟩
  | object items => exact ⟨_, _, rfl, by decide, by decide⟩

end ModelMigration.Json
