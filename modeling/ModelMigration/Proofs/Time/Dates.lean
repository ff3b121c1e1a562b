import Mathlib.Algebra.GroupWithZero.Nat
import ModelMigration.Calendar

/-!
# Days and dates

The year found for a day is the one whose days the day is among, and a later day has a later date:
its year is greater, or its month in the same year, or its day in the same month.
-/

namespace ModelMigration.Date

/-! ## Years -/

theorem daysBeforeYear_succ (year : Int) :
    daysBeforeYear (year + 1) = daysBeforeYear year + (monthLengths year).sum := by
  have length : ((monthLengths year).sum : Int) = if isLeap year then 366 else 365 := by
    unfold monthLengths
    split <;> rfl
  have leap : isLeap year = true ↔ year % 4 = 0 ∧ (year % 100 ≠ 0 ∨ year % 400 = 0) := by
    simp [isLeap]
  -- Each quotient grows behind the years that its divisor divides, and only there.
  have fours : (year + 1 + 3) / 4 = (year + 3) / 4 + if year % 4 = 0 then 1 else 0 := by omega
  have hundreds : (year + 1 + 99) / 100 = (year + 99) / 100 + if year % 100 = 0 then 1 else 0 := by
    omega
  have wholes : (year + 1 + 399) / 400 = (year + 399) / 400 + if year % 400 = 0 then 1 else 0 := by
    omega
  simp only [length, leap, daysBeforeYear, fours, hundreds, wholes]
  omega

theorem daysBeforeYear_mono {year later : Int} (h : year ≤ later) :
    daysBeforeYear year ≤ daysBeforeYear later := by
  unfold daysBeforeYear
  omega

theorem yearOf_spec (n : Int) :
    daysBeforeYear (yearOf n) ≤ n ∧ n < daysBeforeYear (yearOf n + 1) := by
  unfold yearOf
  dsimp only
  split
  · next before =>
      rw [Int.sub_add_cancel]
      refine ⟨?_, before⟩
      unfold daysBeforeYear
      omega
  · next notBefore =>
      split
      · next behind =>
          refine ⟨behind, ?_⟩
          unfold daysBeforeYear
          omega
      · next notBehind => exact ⟨Int.not_lt.mp notBefore, Int.not_le.mp notBehind⟩

theorem yearOf_mono {m n : Int} (h : m ≤ n) : yearOf m ≤ yearOf n := by
  apply Int.not_lt.mp
  intro before
  have between := daysBeforeYear_mono (Int.add_one_le_of_lt before)
  have := (yearOf_spec m).1
  have := (yearOf_spec n).2
  omega

/-! ## Months -/

variable {month most rest later : Nat} {lengths : List Nat}

theorem le_inMonths : month ≤ (inMonths month lengths rest).1 := by
  induction lengths generalizing month rest with
  | nil => exact Nat.le_refl _
  | cons length lengths ih =>
      unfold inMonths
      split
      · exact Nat.le_refl _
      · exact Nat.le_of_succ_le ih

theorem inMonths_lt (h : rest < later) :
    (inMonths month lengths rest).1 < (inMonths month lengths later).1 ∨
      (inMonths month lengths rest).1 = (inMonths month lengths later).1 ∧
        (inMonths month lengths rest).2 < (inMonths month lengths later).2 := by
  induction lengths generalizing month rest later with
  | nil => exact .inr ⟨rfl, Nat.succ_lt_succ h⟩
  | cons length lengths ih =>
      unfold inMonths
      by_cases inside : rest < length
      · by_cases inside' : later < length
        · rw [if_pos inside, if_pos inside']
          exact .inr ⟨rfl, Nat.succ_lt_succ h⟩
        · rw [if_pos inside, if_neg inside']
          exact .inl (Nat.lt_of_succ_le le_inMonths)
      · rw [if_neg inside, if_neg (by omega)]
        exact ih (by omega)

theorem inMonths_le (atMost : ∀ length ∈ lengths, length ≤ most) (h : rest < lengths.sum) :
    (inMonths month lengths rest).1 < month + lengths.length ∧
      (inMonths month lengths rest).2 ≤ most := by
  induction lengths generalizing month rest with
  | nil => simp at h
  | cons length lengths ih =>
      unfold inMonths
      rw [List.length_cons]
      split
      · next inside =>
          have := atMost length List.mem_cons_self
          dsimp only
          omega
      · next outside =>
          rw [List.sum_cons] at h
          have others := fun x mem => atMost x (List.mem_cons_of_mem _ mem)
          have found := @ih (month + 1) (rest - length) others (by omega)
          omega

/-! ## Dates -/

/-- Whether a date comes before another. -/
def Before (d e : Date) : Prop :=
  d.year < e.year ∨ d.year = e.year ∧ (d.month < e.month ∨ d.month = e.month ∧ d.day < e.day)

theorem ofNumber_before {m n : Int} (h : m < n) : (ofNumber m).Before (ofNumber n) := by
  have years := yearOf_mono (Int.le_of_lt h)
  by_cases same : yearOf m = yearOf n
  · right
    refine ⟨same, ?_⟩
    have rests : (m - daysBeforeYear (yearOf m)).toNat < (n - daysBeforeYear (yearOf n)).toNat := by
      have := (yearOf_spec m).1
      rw [same] at this ⊢
      omega
    unfold ofNumber
    rw [same] at rests ⊢
    exact inMonths_lt rests
  · exact .inl (by unfold ofNumber; dsimp only; omega)

/-- Months and days have two digits at most. -/
theorem ofNumber_le (n : Int) : (ofNumber n).month ≤ 12 ∧ (ofNumber n).day ≤ 31 := by
  have spec := yearOf_spec n
  rw [daysBeforeYear_succ] at spec
  have atMost : ∀ length ∈ monthLengths (yearOf n), length ≤ 31 := by
    unfold monthLengths
    split <;> decide
  have found := @inMonths_le 1 31 (n - daysBeforeYear (yearOf n)).toNat _ atMost (by omega)
  have count : (monthLengths (yearOf n)).length = 12 := rfl
  rw [count] at found
  exact ⟨Nat.le_of_lt_succ found.1, found.2⟩

end ModelMigration.Date
