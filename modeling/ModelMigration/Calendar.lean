/-!
# Calendar

The Gregorian calendar, carried on to all years: the number of a day, counted from the first of
January of the year zero, and its date.
-/

namespace ModelMigration

/-- A day of the calendar. -/
structure Date where
  year : Int
  month : Nat
  day : Nat
deriving DecidableEq, Repr

namespace Date

/-- Whether a year has a twenty-ninth of February. -/
def isLeap (year : Int) : Bool := year % 4 = 0 && (year % 100 ≠ 0 || year % 400 = 0)

/-- The days of the months of a year. -/
def monthLengths (year : Int) : List Nat :=
  [31, if isLeap year then 29 else 28, 31, 30, 31, 30, 31, 31, 30, 31, 30, 31]

/-- The number of days between the start of the year zero and the start of a year. -/
def daysBeforeYear (year : Int) : Int :=
  365 * year + (year + 3) / 4 - (year + 99) / 100 + (year + 399) / 400

/-- The number of days between the start of a year and the start of one of its months. -/
def daysBeforeMonth (year : Int) (month : Nat) : Nat :=
  ((monthLengths year).take (month - 1)).foldl (· + ·) 0

/-- The number of a day. -/
def number (d : Date) : Int := daysBeforeYear d.year + daysBeforeMonth d.year d.month + (d.day - 1)

/-- The year in which a day falls: the average length of years tells it up to one. -/
def yearOf (n : Int) : Int :=
  let guess := n * 400 / 146097
  if n < daysBeforeYear guess then guess - 1
  else if daysBeforeYear (guess + 1) ≤ n then guess + 1
  else guess

/-- The month and the day in it, given the lengths of the months from `month` on. -/
def inMonths : (month : Nat) → (lengths : List Nat) → (rest : Nat) → Nat × Nat
  | month, [], rest => (month, rest + 1)
  | month, length :: lengths, rest =>
      if rest < length then (month, rest + 1) else inMonths (month + 1) lengths (rest - length)

/-- The date of a day. -/
def ofNumber (n : Int) : Date :=
  let year := yearOf n
  let (month, day) := inMonths 1 (monthLengths year) (n - daysBeforeYear year).toNat
  ⟨year, month, day⟩

end Date

end ModelMigration
