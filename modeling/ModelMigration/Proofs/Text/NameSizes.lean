import ModelMigration.Proofs.Disk.FileNames

/-!
# Sizes of names

How many bytes the names of migrations take. Up to the year 9999 no stamp takes more bytes than an
earlier one, and no model has a name that is much longer than the names of its migrations.
-/

namespace ModelMigration

/-! ## Characters and bytes -/

theorem utf8ByteSize_ofList (cs : List Char) :
    (String.ofList cs).utf8ByteSize = (cs.map Char.utf8Size).sum := by
  induction cs with
  | nil => rfl
  | cons c cs ih =>
      have first : String.ofList (c :: cs) = String.singleton c ++ String.ofList cs := by
        apply String.toList_injective
        simp
      rw [first, String.utf8ByteSize_append, String.utf8ByteSize_singleton, ih, List.map_cons,
        List.sum_cons]

theorem utf8ByteSize_eq_sum (text : String) :
    text.utf8ByteSize = (text.toList.map Char.utf8Size).sum := by
  rw [← utf8ByteSize_ofList, String.ofList_toList]

theorem length_le_utf8ByteSize (text : String) : text.toList.length ≤ text.utf8ByteSize := by
  rw [utf8ByteSize_eq_sum]
  induction text.toList with
  | nil => exact Nat.le_refl _
  | cons c cs ih =>
      have := Char.utf8Size_pos c
      rw [List.length_cons, List.map_cons, List.sum_cons]
      omega

theorem utf8ByteSize_le_length (text : String) : text.utf8ByteSize ≤ 4 * text.toList.length := by
  rw [utf8ByteSize_eq_sum]
  induction text.toList with
  | nil => exact Nat.le_refl _
  | cons c cs ih =>
      have := Char.utf8Size_le_four c
      rw [List.length_cons, List.map_cons, List.sum_cons]
      omega

theorem utf8Size_of_inStamp {c : Char} (h : inStamp c = true) : c.utf8Size = 1 := by
  rw [Char.utf8Size_eq_one_iff, UInt32.le_iff_toNat_le]
  simp only [inStamp, Bool.or_eq_true, decide_eq_true_eq, Char.isDigit_iff_toNat] at h
  rcases h with ((⟨_, digit⟩ | rfl) | rfl) | rfl
  · exact Nat.le_trans digit (by decide)
  all_goals decide

/-- Each character of a stamp is one byte. -/
theorem StampText.utf8ByteSize_eq {text : String} (h : StampText text) :
    text.utf8ByteSize = text.toList.length := by
  rw [utf8ByteSize_eq_sum]
  have ones : text.toList.map Char.utf8Size = List.replicate text.toList.length 1 :=
    List.map_eq_replicate_iff.mpr fun c mem => utf8Size_of_inStamp (h c mem)
  rw [ones, List.sum_replicate_nat, Nat.mul_one]

/-! ## Stamps -/

namespace Timestamp

variable {t u : Timestamp}

theorem length_padded_eq (width n : Nat) :
    (padded width n).toList.length = max width (Nat.toDigits 10 n).length := by
  rw [padded, String.toList_ofList, List.length_append, List.length_replicate]
  omega

theorem length_toDigits_mono {m n : Nat} (h : m ≤ n) :
    (Nat.toDigits 10 m).length ≤ (Nat.toDigits 10 n).length := by
  have some : 0 < (Nat.toDigits 10 n).length := Nat.length_toDigits_pos
  have held := (Nat.length_toDigits_le_iff (by decide) some).mp (Nat.le_refl _)
  exact (Nat.length_toDigits_le_iff (by decide) some).mpr (Nat.lt_of_le_of_lt h held)

theorem length_yearText_le {year later : Int} (h : year ≤ later) (last : later ≤ 9999) :
    (yearText later).toList.length ≤ (yearText year).toList.length := by
  have sign : "-".toList.length = 1 := by decide
  unfold yearText
  rw [if_neg (Int.not_lt.mpr last), if_neg (by omega : ¬ 9999 < year)]
  by_cases before : later < 0
  · have digits := length_toDigits_mono (by omega : later.natAbs ≤ year.natAbs)
    rw [if_pos before, if_pos (by omega)]
    simp only [String.toList_append, List.length_append, length_padded_eq]
    omega
  · rw [if_neg before, length_padded (by decide) (by omega)]
    split
    · simp only [String.toList_append, List.length_append, length_padded_eq]
      omega
    · rw [length_padded_eq]
      omega

theorem year_mono (h : t.seconds ≤ u.seconds) : t.date.year ≤ u.date.year :=
  Date.yearOf_mono (by omega)

theorem utf8ByteSize_stamp (t : Timestamp) :
    t.stamp.utf8ByteSize = (yearText t.date.year).toList.length + 13 := by
  have two : 0 < 2 := by decide
  obtain ⟨month, day, hour, minute, second⟩ := fields_le t
  rw [(stampText_stamp t).utf8ByteSize_eq, toList_stamp]
  simp only [List.length_append, List.length_cons, length_padded two month, length_padded two day,
    length_padded two hour, length_padded two minute, length_padded two second]

theorem utf8ByteSize_stamp_le (h : t.seconds ≤ u.seconds) (last : u.date.year ≤ 9999) :
    u.stamp.utf8ByteSize ≤ t.stamp.utf8ByteSize := by
  rw [utf8ByteSize_stamp, utf8ByteSize_stamp]
  exact Nat.add_le_add_right (length_yearText_le (year_mono h) last) 13

/-- A clock can show the years of four digits. -/
theorem seconds_le_last (year : t.date.year ≤ 9999) : t.seconds ≤ last.seconds := by
  apply Int.not_lt.mp
  intro behind
  have years : last.date.year ≤ t.date.year := year_mono (Int.le_of_lt behind)
  have greatest : last.date.year = 262142 := by decide
  omega

end Timestamp

/-! ## Names of migrations -/

variable {t u : Timestamp} {model ext : String}

theorem utf8ByteSize_migrationFileName_le (h : t.seconds ≤ u.seconds) (last : u.date.year ≤ 9999) :
    (migrationFileName u model ext).utf8ByteSize ≤ (migrationFileName t model ext).utf8ByteSize := by
  have stamps := Timestamp.utf8ByteSize_stamp_le h last
  simp only [migrationFileName, String.utf8ByteSize_append]
  omega

namespace Text

theorem lowercaseForm_ne_nil (c : Char) : lowercaseForm c ≠ [] := by
  unfold lowercaseForm
  split <;> simp

theorem length_le_lowerAfter (before cs : List Char) : cs.length ≤ (lowerAfter before cs).length := by
  induction cs generalizing before with
  | nil => exact Nat.zero_le _
  | cons c cs ih =>
      have rest := ih (c :: before)
      rw [lowerAfter, List.length_append, List.length_cons]
      split
      · rw [List.length_singleton]
        omega
      · have some := List.length_pos_iff.mpr (lowercaseForm_ne_nil c)
        omega

end Text

/-- Lower case may take fewer bytes, but not fewer characters, and a character takes four at most. -/
theorem utf8ByteSize_le_migrationFileName (t : Timestamp) (model ext : String) :
    model.utf8ByteSize ≤ 4 * (migrationFileName t model ext).utf8ByteSize := by
  have bytes := utf8ByteSize_le_length model
  have lower : model.toList.length ≤ (Text.lowered model).toList.length := by
    rw [Text.lowered, String.toList_ofList]
    exact Text.length_le_lowerAfter [] _
  have chars := length_le_utf8ByteSize (Text.lowered model)
  simp only [migrationFileName, String.utf8ByteSize_append]
  omega

end ModelMigration
