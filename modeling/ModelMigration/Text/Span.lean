/-!
# Spans of characters

A property of characters is given as a list of spans of code points, and a case map as a list of
spans with the distance to the partner.
-/

namespace ModelMigration.Text

/-- The code points `first, first + step, …, last`. -/
structure Span where
  first : Nat
  last : Nat
  step : Nat
deriving DecidableEq, Repr

namespace Span

/-- Whether a code point is one of the span. -/
def holds (s : Span) (n : Nat) : Bool :=
  s.first ≤ n && n ≤ s.last && (n - s.first) % s.step == 0

/-- Whether a character lies in one of the spans. -/
def cover (spans : List Span) (c : Char) : Bool := spans.any fun s => s.holds c.toNat

end Span

/-- Characters that have a partner at one distance. -/
structure Shift where
  span : Span
  distance : Int
deriving DecidableEq, Repr

/-- The partner of a character, if it has one. -/
def Shift.partner? (shifts : List Shift) (c : Char) : Option Char :=
  (shifts.find? fun s => s.span.holds c.toNat).map fun s =>
    Char.ofNat ((c.toNat : Int) + s.distance).toNat

end ModelMigration.Text
