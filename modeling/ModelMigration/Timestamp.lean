import ModelMigration.Calendar

/-!
# Timestamps and the clock

A timestamp is a second of calendar time. The clock of a run moves on by its step before each use,
so that no timestamp is used twice.
-/

namespace ModelMigration

/-- A second of calendar time, counted from the start of the year zero. -/
structure Timestamp where
  seconds : Int
deriving DecidableEq, Repr

namespace Timestamp

/-- The second at a time of a day. -/
def ofParts (date : Date) (hour minute second : Nat) : Timestamp :=
  ⟨date.number * 86400 + (hour * 3600 + minute * 60 + second : Nat)⟩

/-- The day of a timestamp. -/
def date (t : Timestamp) : Date := .ofNumber (t.seconds / 86400)

/-- The seconds since the start of the day. -/
def ofDay (t : Timestamp) : Nat := (t.seconds % 86400).toNat

/-- The full hours since the start of the day. -/
def hour (t : Timestamp) : Nat := t.ofDay / 3600

/-- The full minutes since the start of the hour. -/
def minute (t : Timestamp) : Nat := t.ofDay / 60 % 60

/-- The seconds since the start of the minute. -/
def second (t : Timestamp) : Nat := t.ofDay % 60

/-- The digits of a number with zeros in front, `width` of them at least. -/
def padded (width n : Nat) : String :=
  let digits := Nat.toDigits 10 n
  String.ofList (List.replicate (width - digits.length) '0' ++ digits)

/-- The text of a year: four digits at least, with a sign before the year zero and after 9999. -/
def yearText (year : Int) : String :=
  if year < 0 then "-" ++ padded 4 year.natAbs
  else if 9999 < year then "+" ++ padded 4 year.natAbs
  else padded 4 year.natAbs

/-- The parts of a timestamp with separators in the date, between date and time, and in the time. -/
def format (t : Timestamp) (inDate between inTime : String) : String :=
  yearText t.date.year ++ inDate ++ padded 2 t.date.month ++ inDate ++ padded 2 t.date.day ++
    between ++ padded 2 t.hour ++ inTime ++ padded 2 t.minute ++ inTime ++ padded 2 t.second

/-- The text of a timestamp. -/
def text (t : Timestamp) : String := t.format "-" "T" ":"

/-- The last second that a clock can show. -/
def last : Timestamp := ofParts ⟨262142, 12, 31⟩ 23 59 59

end Timestamp

/-- A clock that moves by whole steps. -/
structure Clock where
  current : Timestamp
  /-- The seconds of a step. -/
  step : Nat
deriving DecidableEq, Repr

namespace Clock

/-- The step of a clock that is given none. -/
def defaultStep : Nat := 5

/-- The greatest step that a clock takes. -/
def greatestStep : Nat := 9223372036854775

/-- A clock that shows the given time. -/
def startingAt (t : Timestamp) : Clock := ⟨t, defaultStep⟩

/-- The clock with another step, one second at least; none if the step is too great. -/
def withStep? (c : Clock) (seconds : Int) : Option Clock :=
  let step := (max seconds 1).toNat
  if step ≤ greatestStep then some { c with step := step } else none

/-- The clock one step on, unless that lies beyond the last second. -/
def advance? (c : Clock) : Option Clock :=
  let next : Timestamp := ⟨c.current.seconds + c.step⟩
  if next.seconds ≤ Timestamp.last.seconds then some { c with current := next } else none

end Clock

end ModelMigration
