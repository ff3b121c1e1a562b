import Mathlib.Algebra.Group.Nat.Defs
import Mathlib.Data.List.Basic
import ModelMigration.Naming
import ModelMigration.Proofs.Text.ByteOrder
import ModelMigration.Proofs.Text.Pieces
import ModelMigration.Proofs.Time.Dates

/-!
# Stamps

A stamp tells its timestamp, whatever stands behind it, and in the years of four digits stamps are
ordered as the timestamps are.
-/

namespace ModelMigration

namespace Timestamp

/-! ## Padded numbers -/

theorem isDigit_of_mem_padded {width n : Nat} {c : Char} (mem : c ∈ (padded width n).toList) :
    c.isDigit = true := by
  rw [padded, String.toList_ofList, List.mem_append] at mem
  rcases mem with zero | digit
  · rw [(List.mem_replicate.mp zero).2]
    rfl
  · exact Nat.isDigit_of_mem_toDigits (by decide) (by decide) digit

/-- Reading the digits gives the number back. -/
theorem padded_inj {width m n : Nat} (same : padded width m = padded width n) : m = n := by
  have read : ∀ k, Nat.ofDigitChars 10 (padded width k).toList 0 = k := by
    intro k
    rw [padded, String.toList_ofList, Nat.ofDigitChars_append, Nat.ofDigitChars_replicate_zero,
      Nat.mul_zero, Nat.ofDigitChars_ten_toDigits]
  rw [← read m, same, read n]

/-- The last digit of a padded number stands behind the others. -/
theorem padded_succ (width n : Nat) : (padded (width + 2) n).toList =
    (padded (width + 1) (n / 10)).toList ++ [(n % 10).digitChar] := by
  simp only [padded, String.toList_ofList]
  by_cases small : n < 10
  · rw [Nat.toDigits_of_lt_base small, Nat.div_eq_of_lt small, Nat.toDigits_zero,
      Nat.mod_eq_of_lt small]
    simp [List.replicate_succ']
  · rw [Nat.toDigits_of_base_le (by decide) (Nat.not_lt.mp small), List.length_append,
      List.append_assoc, List.length_singleton, Nat.add_sub_add_right (width + 1) 1]

theorem length_padded {width n : Nat} (some : 0 < width) (held : n < 10 ^ width) :
    (padded width n).toList.length = width := by
  match width, some with
  | 1, _ =>
      have digit : n < 10 := held
      rw [padded, Nat.toDigits_of_lt_base digit, String.toList_ofList]
      rfl
  | width + 2, _ =>
      have shorter : n / 10 < 10 ^ (width + 1) := by
        rw [Nat.pow_succ] at held
        omega
      rw [padded_succ, List.length_append, length_padded (Nat.succ_pos width) shorter,
        List.length_singleton]

theorem digitChar_lt {a b : Nat} (h : a < b) (small : b < 10) : [a.digitChar] < [b.digitChar] := by
  rw [List.cons_lt_cons_iff, Char.lt_def, UInt32.lt_iff_toNat_lt]
  left
  have := Nat.toNat_digitChar_of_lt_ten small
  have := Nat.toNat_digitChar_of_lt_ten (Nat.lt_trans h small)
  simp only [Char.toNat] at *
  omega

theorem padded_lt {width m n : Nat} (some : 0 < width) (held : n < 10 ^ width) (h : m < n) :
    (padded width m).toList < (padded width n).toList := by
  match width, some with
  | 1, _ =>
      have digit : n < 10 := held
      rw [padded, padded, Nat.toDigits_of_lt_base digit,
        Nat.toDigits_of_lt_base (Nat.lt_trans h digit)]
      simpa using digitChar_lt h digit
  | width + 2, _ =>
      have shorter : n / 10 < 10 ^ (width + 1) := by
        rw [Nat.pow_succ] at held
        omega
      rw [padded_succ, padded_succ]
      by_cases front : m / 10 = n / 10
      · rw [front]
        exact List.append_left_lt (digitChar_lt (by omega) (Nat.mod_lt _ (by decide)))
      · have less : m / 10 < n / 10 := by omega
        have lengths : (padded (width + 1) (m / 10)).toList.length =
            (padded (width + 1) (n / 10)).toList.length := by
          rw [length_padded (Nat.succ_pos width) shorter,
            length_padded (Nat.succ_pos width) (Nat.lt_trans less shorter)]
        exact Text.append_lt_append lengths (padded_lt (Nat.succ_pos width) shorter less) _ _

/-- Numbers of one width, each with something behind it, are ordered by number first. -/
theorem padded_append_lt {width m n : Nat} {xs ys : List Char} (some : 0 < width)
    (held : n < 10 ^ width) (h : m < n ∨ m = n ∧ xs < ys) :
    (padded width m).toList ++ xs < (padded width n).toList ++ ys := by
  rcases h with less | ⟨rfl, rest⟩
  · have lengths : (padded width m).toList.length = (padded width n).toList.length := by
      rw [length_padded some held, length_padded some (Nat.lt_trans less held)]
    exact Text.append_lt_append lengths (padded_lt some held less) _ _
  · exact List.append_left_lt rest

theorem padded_append_inj {width m n : Nat} {xs ys : List Char} (some : 0 < width)
    (hm : m < 10 ^ width) (hn : n < 10 ^ width)
    (same : (padded width m).toList ++ xs = (padded width n).toList ++ ys) : m = n ∧ xs = ys := by
  have lengths : (padded width m).toList.length = (padded width n).toList.length := by
    rw [length_padded some hm, length_padded some hn]
  obtain ⟨numbers, rest⟩ := List.append_inj same lengths
  exact ⟨padded_inj (String.toList_injective numbers), rest⟩

/-! ## Fields -/

variable {t u : Timestamp} {xs ys : List Char}

/-- Of two timestamps the later one has the greater field where their fields first differ. -/
theorem fields_lt (h : t.seconds < u.seconds) :
    t.date.year < u.date.year ∨ t.date.year = u.date.year ∧ (t.date.month < u.date.month ∨
      t.date.month = u.date.month ∧ (t.date.day < u.date.day ∨ t.date.day = u.date.day ∧
        (t.hour < u.hour ∨ t.hour = u.hour ∧ (t.minute < u.minute ∨ t.minute = u.minute ∧
          t.second < u.second)))) := by
  by_cases day : t.seconds / 86400 = u.seconds / 86400
  · have date : t.date = u.date := congrArg Date.ofNumber day
    have ofDay : t.ofDay < u.ofDay := by
      unfold Timestamp.ofDay
      omega
    refine .inr ⟨by rw [date], .inr ⟨by rw [date], .inr ⟨by rw [date], ?_⟩⟩⟩
    unfold hour minute second
    omega
  · have date : t.date.Before u.date := Date.ofNumber_before (by omega)
    unfold Date.Before at date
    omega

theorem eq_of_fields (year : t.date.year = u.date.year) (month : t.date.month = u.date.month)
    (day : t.date.day = u.date.day) (hour : t.hour = u.hour) (minute : t.minute = u.minute)
    (second : t.second = u.second) : t = u := by
  have notBefore : ¬ t.seconds < u.seconds := fun less => by
    have fields := fields_lt less
    omega
  have notBehind : ¬ u.seconds < t.seconds := fun less => by
    have fields := fields_lt less
    omega
  have seconds : t.seconds = u.seconds := by omega
  cases t
  cases u
  exact congrArg Timestamp.mk seconds

/-- The fields behind the year have two digits at most. -/
theorem fields_le (t : Timestamp) :
    t.date.month < 10 ^ 2 ∧ t.date.day < 10 ^ 2 ∧ t.hour < 10 ^ 2 ∧ t.minute < 10 ^ 2 ∧
      t.second < 10 ^ 2 := by
  have date := Date.ofNumber_le (t.seconds / 86400)
  unfold hour minute second ofDay Timestamp.date
  omega

/-! ## Years -/

theorem mark_not_mem_yearText (year : Int) : '_' ∉ (yearText year).toList := by
  have digits : ∀ width n, '_' ∉ (padded width n).toList := by
    intro width n mem
    exact absurd (isDigit_of_mem_padded mem) (by decide)
  unfold yearText
  split
  · simp [digits]
  · split <;> simp [digits]

/-- A sign is no digit. -/
theorem signed_ne_padded {sign : String} (c : Char) {m n : Nat} (starts : sign.toList = [c])
    (noDigit : c.isDigit = false) : sign ++ padded 4 m ≠ padded 4 n := by
  intro same
  have mem : c ∈ (padded 4 n).toList := by simp [← same, starts]
  simp [isDigit_of_mem_padded mem] at noDigit

theorem yearText_inj {year other : Int} (same : yearText year = yearText other) : year = other := by
  have signs : ∀ {m n : Nat}, "-" ++ padded 4 m ≠ "+" ++ padded 4 n := by
    intro m n same
    simpa using congrArg (fun s : String => s.toList.head?) same
  have minus : ∀ {m n : Nat}, "-" ++ padded 4 m ≠ padded 4 n :=
    signed_ne_padded '-' (by decide) (by decide)
  have plus : ∀ {m n : Nat}, "+" ++ padded 4 m ≠ padded 4 n :=
    signed_ne_padded '+' (by decide) (by decide)
  have amount : ∀ {sign : String} {m n : Nat}, sign ++ padded 4 m = sign ++ padded 4 n → m = n :=
    fun same => padded_inj (String.append_right_inj _ |>.mp same)
  unfold yearText at same
  split_ifs at same
  · have := amount same
    omega
  · exact absurd same signs
  · exact absurd same minus
  · exact absurd same.symm signs
  · have := amount same
    omega
  · exact absurd same plus
  · exact absurd same.symm minus
  · exact absurd same.symm plus
  · have := padded_inj same
    omega

theorem yearText_eq {year : Int} (first : 0 ≤ year) (last : year ≤ 9999) :
    yearText year = padded 4 year.natAbs := by
  rw [yearText, if_neg (Int.not_lt.mpr first), if_neg (Int.not_lt.mpr last)]

/-! ## Stamps -/

theorem toList_stamp (t : Timestamp) : t.stamp.toList =
    (yearText t.date.year).toList ++ '_' :: ((padded 2 t.date.month).toList ++
      '_' :: ((padded 2 t.date.day).toList ++ '_' :: ((padded 2 t.hour).toList ++
        ((padded 2 t.minute).toList ++ (padded 2 t.second).toList)))) := by
  simp [stamp, format]

/-- A stamp shows where it ends and tells its timestamp. -/
theorem stamp_append_inj (same : t.stamp.toList ++ xs = u.stamp.toList ++ ys) :
    t = u ∧ xs = ys := by
  simp only [toList_stamp, List.append_assoc, List.cons_append] at same
  have two : 0 < 2 := by decide
  obtain ⟨month, day, hour, minute, second⟩ := fields_le t
  obtain ⟨month', day', hour', minute', second'⟩ := fields_le u
  obtain ⟨years, same⟩ :=
    Text.append_sep_inj (mark_not_mem_yearText _) (mark_not_mem_yearText _) same
  obtain ⟨months, same⟩ := padded_append_inj two month month' same
  obtain ⟨days, same⟩ := padded_append_inj two day day' (List.cons.inj same).2
  obtain ⟨hours, same⟩ := padded_append_inj two hour hour' (List.cons.inj same).2
  obtain ⟨minutes, same⟩ := padded_append_inj two minute minute' same
  obtain ⟨seconds, same⟩ := padded_append_inj two second second' same
  have years := yearText_inj (String.toList_injective years)
  exact ⟨eq_of_fields years months days hours minutes seconds, same⟩

/-- In the years of four digits stamps are ordered as their timestamps, whatever stands behind. -/
theorem stamp_append_lt (h : t.seconds < u.seconds) (first : 0 ≤ t.date.year)
    (last : u.date.year ≤ 9999) (xs ys : List Char) :
    t.stamp.toList ++ xs < u.stamp.toList ++ ys := by
  have two : 0 < 2 := by decide
  have marked : ∀ {cs ds : List Char}, cs < ds → '_' :: cs < '_' :: ds :=
    fun less => List.cons_lt_cons_iff.mpr (.inr ⟨rfl, less⟩)
  have fields := fields_lt h
  obtain ⟨month, day, hour, minute, second⟩ := fields_le u
  have year : u.date.year.natAbs < 10 ^ 4 := by omega
  simp only [toList_stamp, List.append_assoc, List.cons_append]
  rw [yearText_eq first (by omega), yearText_eq (by omega) last]
  -- Field by field: either the numbers differ here, or what stands behind them does.
  refine padded_append_lt (by decide) year (fields.imp (by omega) ?_)
  rintro ⟨years, fields⟩
  refine ⟨by rw [years], marked (padded_append_lt two month (fields.imp_right ?_))⟩
  rintro ⟨months, fields⟩
  refine ⟨months, marked (padded_append_lt two day (fields.imp_right ?_))⟩
  rintro ⟨days, fields⟩
  refine ⟨days, marked (padded_append_lt two hour (fields.imp_right ?_))⟩
  rintro ⟨hours, fields⟩
  refine ⟨hours, padded_append_lt two minute (fields.imp_right ?_)⟩
  rintro ⟨minutes, seconds⟩
  exact ⟨minutes, padded_append_lt two second (.inl seconds)⟩

end Timestamp

/-! ## Names of migrations -/

variable {t u : Timestamp} {model model' ext ext' : String}

theorem timestamp_of_migrationFileName
    (same : migrationFileName t model ext = migrationFileName u model' ext') : t = u := by
  have chars := congrArg String.toList same
  simp only [migrationFileName, String.toList_append, List.append_assoc] at chars
  exact (Timestamp.stamp_append_inj chars).1

/-- The names of the models do not matter. -/
theorem migrationFileName_lt (h : t.seconds < u.seconds) (first : 0 ≤ t.date.year)
    (last : u.date.year ≤ 9999) :
    migrationFileName t model ext < migrationFileName u model' ext' := by
  rw [String.lt_iff]
  simp only [migrationFileName, String.toList_append, List.append_assoc]
  exact Timestamp.stamp_append_lt h first last _ _

end ModelMigration
