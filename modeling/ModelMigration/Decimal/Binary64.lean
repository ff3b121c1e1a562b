/-!
# Doubles

The nonnegative finite doubles as exact numbers: a significand of at most fifty-three bits times a
power of two. Whole numbers, products and quotients are rounded to the nearest of them, a tie going
to the even significand.
-/

namespace ModelMigration.Decimal

/-- The number `significand * 2 ^ exponent`. -/
structure Binary64 where
  significand : Nat
  exponent : Int
deriving DecidableEq, Repr

namespace Binary64

/-- The least exponent of a double. -/
def leastExponent : Int := -1074

/-- The greatest exponent of a double. -/
def greatestExponent : Int := 971

/-- The number zero. -/
def zero : Binary64 := ⟨0, leastExponent⟩

/-- The quotient rounded to the nearest whole number, a tie going to the even one. -/
def roundedQuotient (num den : Nat) : Nat :=
  let q := num / den
  let r := num % den
  if den < 2 * r || (den = 2 * r && q % 2 = 1) then q + 1 else q

/-- A ratio times a power of two, as a ratio. -/
def scaled (num den : Nat) (exponent : Int) : Nat × Nat :=
  if 0 ≤ exponent then (num <<< exponent.toNat, den) else (num, den <<< (-exponent).toNat)

/-- The least significand that has fifty-three bits. -/
def leastFull : Nat := 0x10000000000000

/--
The exponent at which the whole part of a positive ratio has fifty-three bits, but no less than the
least one.
-/
def exponentOf (num den : Nat) : Int :=
  let low : Int := (num.log2 : Int) - den.log2 - 53
  let (n, d) := scaled num den (-low)
  max leastExponent (if n / d < 2 * leastFull then low else low + 1)

/-- The double nearest to a ratio, unless the ratio lies beyond all of them. -/
def ofRatio? (num den : Nat) : Option Binary64 :=
  if num = 0 then some zero
  else
    let exponent := exponentOf num den
    let (n, d) := scaled num den (-exponent)
    let significand := roundedQuotient n d
    let double : Binary64 :=
      if significand = 2 * leastFull then ⟨leastFull, exponent + 1⟩ else ⟨significand, exponent⟩
    if double.exponent ≤ greatestExponent then some double else none

/-- The double nearest to a whole number. -/
def ofNat? (n : Nat) : Option Binary64 := ofRatio? n 1

/-- The double nearest to the product. -/
def mul? (x y : Binary64) : Option Binary64 :=
  let (num, den) := scaled (x.significand * y.significand) 1 (x.exponent + y.exponent)
  ofRatio? num den

/-- The double nearest to the quotient by a positive double. -/
def div? (x y : Binary64) : Option Binary64 :=
  let (num, den) := scaled x.significand y.significand (x.exponent - y.exponent)
  ofRatio? num den

/-- The double nearest to a power of ten. -/
def powerOfTen? (n : Nat) : Option Binary64 := ofNat? (Nat.pow 10 n)

end Binary64

end ModelMigration.Decimal
