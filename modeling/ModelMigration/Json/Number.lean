import ModelMigration.Decimal.Shortest

/-!
# Numbers of a JSON text

Whole numbers of 64 bits are kept exactly; all others are doubles.
-/

namespace ModelMigration.Json

open Decimal

/-- A number as it is read. -/
inductive Number where
  | whole (n : Int)
  | double (negative : Bool) (magnitude : Binary64)
deriving DecidableEq, Repr

/--
The digits of a positive number with a point. From `1e-5` up to below `1e16` they are written out,
and otherwise one digit stands before the point and the power of ten behind.
-/
def pointed (d : Digits) : String :=
  let digits := Nat.toDigits 10 d.digits
  let leading : Int := digits.length + d.exponent - 1
  if leading < -5 || 15 < leading then
    let fraction := digits.drop 1
    let sign := if leading < 0 then "-" else "+"
    let mantissa := digits.take 1 ++ (if fraction = [] then [] else '.' :: fraction)
    String.ofList mantissa ++ "e" ++ sign ++ toString leading.natAbs
  else if 0 ≤ d.exponent then
    String.ofList (digits ++ List.replicate d.exponent.toNat '0') ++ ".0"
  else if 0 ≤ leading then
    let (whole, fraction) := digits.splitAt (leading.toNat + 1)
    String.ofList (whole ++ '.' :: fraction)
  else "0." ++ String.ofList (List.replicate (-leading - 1).toNat '0' ++ digits)

/-- A double by the fewest digits that read back as it. -/
def doubleText (negative : Bool) (magnitude : Binary64) : String :=
  (if negative then "-" else "") ++
    if magnitude.significand = 0 then "0.0" else pointed magnitude.shortest

namespace Number

/-- The number as it is written. -/
def text : Number → String
  | whole n => toString n
  | double negative magnitude => doubleText negative magnitude

/-- How a message names the number. -/
def described : Number → String
  | whole n => "integer `" ++ toString n ++ "`"
  | double negative magnitude => "floating point `" ++ doubleText negative magnitude ++ "`"

end Number

/-- The greatest whole number of 64 bits. -/
def greatestWord : Nat := 0xFFFFFFFFFFFFFFFF

/-- A whole number without fraction and power, negative ones only down to `-2 ^ 63`. -/
def wholeNumber (negative : Bool) (n : Nat) : Number :=
  if !negative then .whole n
  else if 0 < n && n ≤ 0x8000000000000000 then .whole (-n)
  else .double true ((Binary64.ofNat? n).getD .zero)

/--
The double for `x * 10 ^ exponent` with a negative power: division by `1e308` until the rest of
the power is smaller, and then by that.
-/
def dividedBy : (fuel : Nat) → Binary64 → (exponent : Nat) → Binary64
  | 0, x, _ => x
  | fuel + 1, x, exponent =>
      if x.significand = 0 then x
      else
        let step := min exponent 308
        let quotient := ((Binary64.powerOfTen? step).bind x.div?).getD .zero
        if exponent ≤ 308 then quotient else dividedBy fuel quotient (exponent - 308)

/--
The double for `significand * 10 ^ exponent`, first rounding the significand and then the product;
none if it is too large.
-/
def doubleOf? (significand : Nat) (exponent : Int) : Option Binary64 := do
  let x ← Binary64.ofNat? significand
  if exponent < 0 then
    some (dividedBy 10 x (-exponent).toNat)
  else if exponent ≤ 308 then
    x.mul? (← Binary64.powerOfTen? exponent.toNat)
  else if x.significand = 0 then some x
  else none

end ModelMigration.Json
