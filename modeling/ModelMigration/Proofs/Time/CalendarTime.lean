import Mathlib.Algebra.BigOperators.Group.List.Basic
import Mathlib.Tactic.IntervalCases
import ModelMigration.Proofs.Time.Stamps

/-!
# Calendar time

A date and a time of day, and the time one second later: seconds are carried to minutes, minutes to
hours, hours to days, and days to months and years by the lengths of the months. Timestamps count
just these seconds, so the calendar time of a timestamp moves on with it.
-/

namespace ModelMigration

namespace Date

/-- The days of a month. -/
def lengthOf (year : Int) : (month : Nat) → Nat
  | 2 => if isLeap year then 29 else 28
  | 4 | 6 | 9 | 11 => 30
  | _ => 31

/-- Whether a date is one of the calendar. -/
structure Valid (d : Date) : Prop where
  month_pos : 1 ≤ d.month
  month_le : d.month ≤ 12
  day_pos : 1 ≤ d.day
  day_le : d.day ≤ lengthOf d.year d.month

instance (d : Date) : Decidable d.Valid :=
  decidable_of_iff (1 ≤ d.month ∧ d.month ≤ 12 ∧ 1 ≤ d.day ∧ d.day ≤ lengthOf d.year d.month)
    ⟨fun ⟨m, m', n, n'⟩ => ⟨m, m', n, n'⟩, fun ⟨m, m', n, n'⟩ => ⟨m, m', n, n'⟩⟩

/-- The date of the next day. -/
def next (d : Date) : Date :=
  if d.day < lengthOf d.year d.month then ⟨d.year, d.month, d.day + 1⟩
  else if d.month < 12 then ⟨d.year, d.month + 1, 1⟩
  else ⟨d.year + 1, 1, 1⟩

theorem lengthOf_pos (year : Int) (month : Nat) : 1 ≤ lengthOf year month := by
  unfold lengthOf
  split
  · split <;> decide
  all_goals decide

variable {d : Date}

theorem Valid.next (valid : d.Valid) : d.next.Valid := by
  obtain ⟨month, month', day, day'⟩ := valid
  unfold Date.next
  split
  · next inside => exact ⟨month, month', Nat.succ_pos _, inside⟩
  · split
    · next before => exact ⟨Nat.succ_pos _, before, Nat.le_refl 1, lengthOf_pos _ _⟩
    · exact ⟨Nat.le_refl 1, Nat.succ_pos 11, Nat.le_refl 1, lengthOf_pos _ _⟩

theorem eq_of_fields {e : Date} (year : d.year = e.year) (month : d.month = e.month)
    (day : d.day = e.day) : d = e := by
  cases d
  cases e
  simp_all

/-! ## Numbers of days -/

theorem getElem?_monthLengths (year : Int) {month : Nat} (le : month < 12) :
    (monthLengths year)[month]? = some (lengthOf year (month + 1)) := by
  interval_cases month <;> rfl

theorem daysBeforeMonth_succ (year : Int) {month : Nat} (pos : 1 ≤ month) (le : month ≤ 12) :
    daysBeforeMonth year (month + 1) = daysBeforeMonth year month + lengthOf year month := by
  obtain ⟨m, rfl⟩ := Nat.exists_eq_add_of_le' pos
  rw [daysBeforeMonth, daysBeforeMonth, Nat.add_sub_cancel, Nat.add_sub_cancel, List.take_add_one,
    getElem?_monthLengths year le, Option.toList_some, List.foldl_append]
  rfl

/-- The months of a year are the year. -/
theorem daysBeforeYear_succ_eq (year : Int) :
    daysBeforeYear (year + 1) = daysBeforeYear year + daysBeforeMonth year 13 := by
  rw [daysBeforeYear_succ, daysBeforeMonth, List.sum_eq_foldl]
  rfl

/-- The next day has the next number. -/
theorem number_next (valid : d.Valid) : d.next.number = d.number + 1 := by
  obtain ⟨pos, le, day, day'⟩ := valid
  have months := daysBeforeMonth_succ d.year pos le
  unfold next number
  split
  · dsimp only
    omega
  · next full =>
      split
      · dsimp only
        omega
      · have december : d.month = 12 := by omega
        have first : daysBeforeMonth (d.year + 1) 1 = 0 := rfl
        have years := daysBeforeYear_succ_eq d.year
        have whole : daysBeforeMonth d.year 13 = daysBeforeMonth d.year 12 + lengthOf d.year 12 :=
          daysBeforeMonth_succ d.year (by decide) (Nat.le_refl 12)
        rw [december] at day' full ⊢
        dsimp only
        omega

theorem yearOf_eq {n year : Int} (first : daysBeforeYear year ≤ n)
    (last : n < daysBeforeYear (year + 1)) : yearOf n = year := by
  obtain ⟨first', last'⟩ := yearOf_spec n
  have notBefore : ¬ yearOf n < year := fun less => by
    have := daysBeforeYear_mono (Int.add_one_le_of_lt less)
    omega
  have notBehind : ¬ year < yearOf n := fun less => by
    have := daysBeforeYear_mono (Int.add_one_le_of_lt less)
    omega
  omega

theorem inMonths_take {month index rest : Nat} {lengths : List Nat} {length : Nat}
    (stands : lengths[index]? = some length) (inside : rest < length) :
    inMonths month lengths ((lengths.take index).sum + rest) = (month + index, rest + 1) := by
  induction lengths generalizing month index with
  | nil => simp at stands
  | cons first lengths ih =>
      unfold inMonths
      cases index with
      | zero =>
          obtain rfl : first = length := by simpa using stands
          rw [List.take_zero, List.sum_nil, Nat.zero_add, if_pos inside]
          rfl
      | succ index =>
          have behind : ¬ ((first :: lengths).take (index + 1)).sum + rest < first := by
            rw [List.take_succ_cons, List.sum_cons]
            omega
          have others : ((first :: lengths).take (index + 1)).sum + rest - first =
              (lengths.take index).sum + rest := by
            rw [List.take_succ_cons, List.sum_cons]
            omega
          rw [if_neg behind, others, ih (by simpa using stands), Nat.add_assoc, Nat.add_comm 1]

/-- A month ends in its year. -/
theorem daysBeforeMonth_add_lengthOf_le (year : Int) {month : Nat} (pos : 1 ≤ month)
    (le : month ≤ 12) :
    daysBeforeMonth year month + lengthOf year month ≤ daysBeforeMonth year 13 := by
  rw [← daysBeforeMonth_succ year pos le]
  have whole : daysBeforeMonth year 13 = (monthLengths year).sum := by
    rw [List.sum_eq_foldl]
    rfl
  have part : daysBeforeMonth year (month + 1) = ((monthLengths year).take month).sum := by
    rw [List.sum_eq_foldl]
    rfl
  have both := List.sum_take_add_sum_drop (monthLengths year) month
  omega

/-- A date is told by its number. -/
theorem ofNumber_number (valid : d.Valid) : ofNumber d.number = d := by
  obtain ⟨pos, le, day, day'⟩ := valid
  have inYear := daysBeforeMonth_add_lengthOf_le d.year pos le
  have years := daysBeforeYear_succ_eq d.year
  have year : yearOf d.number = d.year :=
    yearOf_eq (by unfold number; omega) (by unfold number; omega)
  have rest : (d.number - daysBeforeYear d.year).toNat =
      ((monthLengths d.year).take (d.month - 1)).sum + (d.day - 1) := by
    rw [List.sum_eq_foldl]
    unfold number daysBeforeMonth
    omega
  have month : (monthLengths d.year)[d.month - 1]? = some (lengthOf d.year d.month) := by
    rw [getElem?_monthLengths d.year (by omega), Nat.sub_add_cancel pos]
  have found : inMonths 1 (monthLengths d.year) _ = _ :=
    inMonths_take month (by omega : d.day - 1 < lengthOf d.year d.month)
  unfold ofNumber
  dsimp only
  rw [year, rest, found, Nat.add_sub_cancel' pos, Nat.sub_add_cancel day]

end Date

/-! ## Dates with a time of day -/

/-- What a clock shows: a date and a time of day. -/
structure CalendarTime where
  date : Date
  hour : Nat
  minute : Nat
  second : Nat
deriving DecidableEq, Repr

/-- What a timestamp is read as. -/
def Timestamp.calendarTime (t : Timestamp) : CalendarTime := ⟨t.date, t.hour, t.minute, t.second⟩

namespace CalendarTime

/-- Whether there is such a second on such a day of the calendar. -/
structure Valid (r : CalendarTime) : Prop where
  date : r.date.Valid
  hour : r.hour < 24
  minute : r.minute < 60
  second : r.second < 60

instance (r : CalendarTime) : Decidable r.Valid :=
  decidable_of_iff (r.date.Valid ∧ r.hour < 24 ∧ r.minute < 60 ∧ r.second < 60)
    ⟨fun ⟨d, h, m, s⟩ => ⟨d, h, m, s⟩, fun ⟨d, h, m, s⟩ => ⟨d, h, m, s⟩⟩

/-- The time one second later. -/
def next (r : CalendarTime) : CalendarTime :=
  if r.second < 59 then { r with second := r.second + 1 }
  else if r.minute < 59 then { r with minute := r.minute + 1, second := 0 }
  else if r.hour < 23 then { r with hour := r.hour + 1, minute := 0, second := 0 }
  else ⟨r.date.next, 0, 0, 0⟩

/-- The time some seconds later. -/
def after (r : CalendarTime) : (seconds : Nat) → CalendarTime
  | 0 => r
  | seconds + 1 => r.next.after seconds

/-- Whether a time comes before another. -/
def Before (r u : CalendarTime) : Prop :=
  r.date.Before u.date ∨ r.date = u.date ∧ (r.hour < u.hour ∨
    r.hour = u.hour ∧ (r.minute < u.minute ∨ r.minute = u.minute ∧ r.second < u.second))

instance (d e : Date) : Decidable (d.Before e) :=
  inferInstanceAs (Decidable (_ ∨ _ ∧ (_ ∨ _ ∧ _)))

instance (r u : CalendarTime) : Decidable (r.Before u) :=
  inferInstanceAs (Decidable (_ ∨ _ ∧ (_ ∨ _ ∧ (_ ∨ _ ∧ _))))

/-- The second that a clock is read as. -/
def timestamp (r : CalendarTime) : Timestamp := .ofParts r.date r.hour r.minute r.second

/-- The last time that a clock can show. -/
def last : CalendarTime := ⟨⟨262142, 12, 31⟩, 23, 59, 59⟩

variable {r u : CalendarTime}

theorem Valid.next (valid : r.Valid) : r.next.Valid := by
  have pos : 0 < 60 := by decide
  obtain ⟨date, hour, minute, second⟩ := valid
  unfold CalendarTime.next
  split
  · exact ⟨date, hour, minute, by dsimp only; omega⟩
  · split
    · exact ⟨date, hour, by dsimp only; omega, pos⟩
    · split
      · exact ⟨date, by dsimp only; omega, pos, pos⟩
      · exact ⟨date.next, Nat.succ_pos 23, pos, pos⟩

/-- The next second has the next number. -/
theorem seconds_next (valid : r.Valid) :
    r.next.timestamp.seconds = r.timestamp.seconds + 1 := by
  obtain ⟨date, hour, minute, second⟩ := valid
  have day := Date.number_next date
  unfold next timestamp Timestamp.ofParts
  split
  · dsimp only
    omega
  · split
    · dsimp only
      omega
    · split
      · dsimp only
        omega
      · dsimp only
        omega

/-- The year 1900 has no twenty-ninth of February. -/
example : next ⟨⟨1900, 2, 28⟩, 23, 59, 59⟩ = ⟨⟨1900, 3, 1⟩, 0, 0, 0⟩ := by decide

theorem Valid.after (valid : r.Valid) (seconds : Nat) : (r.after seconds).Valid := by
  induction seconds generalizing r with
  | zero => exact valid
  | succ seconds ih => exact ih valid.next

theorem seconds_after (valid : r.Valid) (seconds : Nat) :
    (r.after seconds).timestamp.seconds = r.timestamp.seconds + seconds := by
  induction seconds generalizing r with
  | zero => exact (Int.add_zero _).symm
  | succ seconds ih =>
      rw [after, ih valid.next, seconds_next valid]
      omega

/-- A time is told by the number of its second. -/
theorem calendarTime_timestamp (valid : r.Valid) : r.timestamp.calendarTime = r := by
  obtain ⟨date, hour, minute, second⟩ := valid
  have inDay : r.hour * 3600 + r.minute * 60 + r.second < 86400 := by omega
  have day : r.timestamp.seconds / 86400 = r.date.number := by
    unfold timestamp Timestamp.ofParts
    dsimp only
    omega
  have ofDay : r.timestamp.ofDay = r.hour * 3600 + r.minute * 60 + r.second := by
    unfold timestamp Timestamp.ofParts Timestamp.ofDay
    dsimp only
    omega
  have sameDate : r.timestamp.date = r.date := by
    rw [Timestamp.date, day, Date.ofNumber_number date]
  have sameHour : r.timestamp.hour = r.hour := by
    rw [Timestamp.hour, ofDay]
    omega
  have sameMinute : r.timestamp.minute = r.minute := by
    rw [Timestamp.minute, ofDay]
    omega
  have sameSecond : r.timestamp.second = r.second := by
    rw [Timestamp.second, ofDay]
    omega
  rw [Timestamp.calendarTime, sameDate, sameHour, sameMinute, sameSecond]

/-! ## The order of times -/

theorem Before.asymm (before : r.Before u) : ¬ u.Before r := by
  intro behind
  unfold Before Date.Before at before behind
  rcases before with date | ⟨date, time⟩
  · rcases behind with date' | ⟨date', _⟩
    · omega
    · rw [date'] at date
      omega
  · rcases behind with date' | ⟨_, time'⟩
    · rw [date] at date'
      omega
    · omega

theorem before_of_lt {t v : Timestamp} (h : t.seconds < v.seconds) :
    t.calendarTime.Before v.calendarTime := by
  rcases Timestamp.fields_lt h with year | ⟨year, month | ⟨month, day | ⟨day, time⟩⟩⟩
  · exact .inl (.inl year)
  · exact .inl (.inr ⟨year, .inl month⟩)
  · exact .inl (.inr ⟨year, .inr ⟨month, day⟩⟩)
  · exact .inr ⟨Date.eq_of_fields year month day, time⟩

/-- Times come in the order of their seconds. -/
theorem before_iff (valid : r.Valid) (valid' : u.Valid) :
    r.Before u ↔ r.timestamp.seconds < u.timestamp.seconds := by
  have before_of_lt' : ∀ {p q : CalendarTime}, p.Valid → q.Valid →
      p.timestamp.seconds < q.timestamp.seconds → p.Before q := by
    intro p q validP validQ less
    have before := before_of_lt less
    rwa [calendarTime_timestamp validP, calendarTime_timestamp validQ] at before
  refine ⟨fun before => ?_, before_of_lt' valid valid'⟩
  by_contra notLess
  rcases Int.lt_or_eq_of_le (Int.not_lt.mp notLess) with less | same
  · exact before.asymm (before_of_lt' valid' valid less)
  · have equal : u.timestamp = r.timestamp := congrArg Timestamp.mk same
    have times := congrArg Timestamp.calendarTime equal
    rw [calendarTime_timestamp valid, calendarTime_timestamp valid'] at times
    subst times
    exact before.asymm before

theorem last_before_iff (valid : r.Valid) :
    last.Before r ↔ Timestamp.last.seconds < r.timestamp.seconds :=
  before_iff (by decide) valid

end CalendarTime

end ModelMigration
