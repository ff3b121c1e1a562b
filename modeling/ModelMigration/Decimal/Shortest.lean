import ModelMigration.Decimal.Binary64

/-!
# Shortest digits

The fewest decimal digits that read back as a given double, and of those the nearest to it.
-/

namespace ModelMigration.Decimal

/-- The number `digits * 10 ^ exponent`. -/
structure Digits where
  digits : Nat
  exponent : Int
deriving DecidableEq, Repr

/-- Whether `a / b ≤ c / d` for positive denominators. -/
def ratioLe (x y : Nat × Nat) : Bool := x.1 * y.2 ≤ y.1 * x.2

/-- Whether `a / b < c / d` for positive denominators. -/
def ratioLt (x y : Nat × Nat) : Bool := x.1 * y.2 < y.1 * x.2

/-- A decimal number as a ratio. -/
def Digits.ratio (d : Digits) : Nat × Nat :=
  if 0 ≤ d.exponent then (d.digits * Nat.pow 10 d.exponent.toNat, 1)
  else (d.digits, Nat.pow 10 (-d.exponent).toNat)

namespace Binary64

/-- A double as a ratio. -/
def ratio (x : Binary64) : Nat × Nat := scaled x.significand 1 x.exponent

/-- The middle between a double and the next greater one. -/
def upperBound (x : Binary64) : Nat × Nat := scaled (2 * x.significand + 1) 1 (x.exponent - 1)

/-- The middle between a double and the next smaller one, which is nearer below a power of two. -/
def lowerBound (x : Binary64) : Nat × Nat :=
  if x.significand = leastFull && leastExponent < x.exponent then
    scaled (4 * x.significand - 1) 1 (x.exponent - 2)
  else scaled (2 * x.significand - 1) 1 (x.exponent - 1)

/-- Whether a ratio rounds to the double. -/
def reads (x : Binary64) (r : Nat × Nat) : Bool :=
  if x.significand % 2 = 0 then ratioLe x.lowerBound r && ratioLe r x.upperBound
  else ratioLt x.lowerBound r && ratioLt r x.upperBound

/-- The exponent of the first decimal digit of a positive double. -/
def leadingExponent (x : Binary64) : Int :=
  let (num, den) := x.ratio
  if den ≤ num then ((Nat.toDigits 10 (num / den)).length : Int) - 1
  else -(((List.range 400).find? fun j => den ≤ num * Nat.pow 10 j).getD 400 : Int)

/-- The nearer of two neighbours that read back, the even one of a tie. -/
def nearer (x : Binary64) (below above : Digits) : Digits :=
  let (num, den) := x.ratio
  let (b, bd) := below.ratio
  let (a, ad) := above.ratio
  -- twice the value against the sum of the neighbours
  let twice := (2 * num, den)
  let sum := (b * ad + a * bd, bd * ad)
  if ratioLt twice sum then below
  else if ratioLt sum twice then above
  else if below.digits % 2 = 0 then below else above

/-- The neighbour with `count` digits that reads back as the double, if there is one. -/
def withDigits? (x : Binary64) (count : Nat) : Option Digits :=
  let exponent := x.leadingExponent - count + 1
  let (num, den) := x.ratio
  let whole :=
    if 0 ≤ exponent then num / (den * Nat.pow 10 exponent.toNat)
    else num * Nat.pow 10 (-exponent).toNat / den
  let below : Digits := ⟨whole, exponent⟩
  let above : Digits := ⟨whole + 1, exponent⟩
  match x.reads below.ratio, x.reads above.ratio with
  | true, true => some (x.nearer below above)
  | true, false => some below
  | false, true => some above
  | false, false => none

/-- The number without zeros at the end of its digits. -/
def stripped : (fuel : Nat) → Digits → Digits
  | 0, d => d
  | fuel + 1, d =>
      if d.digits ≠ 0 && d.digits % 10 = 0 then stripped fuel ⟨d.digits / 10, d.exponent + 1⟩ else d

/-- The fewest digits that read back as the double; seventeen always do. -/
def shortest (x : Binary64) : Digits :=
  if x.significand = 0 then ⟨0, 0⟩
  else stripped 20 (((List.range 17).findSome? fun i => x.withDigits? (i + 1)).getD ⟨0, 0⟩)

end Binary64

end ModelMigration.Decimal
