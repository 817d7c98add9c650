import Formulary.Number.Fixed.Text

/-!
# Number/Fixed/Instance — fixed point as a number type of formulas

Overflow and division by zero are errors here, never a saturated value.
-/

namespace Formulary.Fixed

instance : Numeric Fixed where
  zero := zero
  one := one
  e := ofRaw 11674931555
  pi := ofRaw 13493037705
  ofInt32 := ofInt32
  ofFloat := ofFloat
  toFloat := toFloat
  ofCanonical? := ofDecimal?
  add := add
  sub := sub
  mul := mul
  div := div
  mod := mod
  neg := neg
  abs := abs
  floor := floor
  ceiling := ceiling
  truncate := truncate
  eq a b := a.raw == b.raw
  lt a b := a.raw < b.raw
  le a b := a.raw ≤ b.raw
  display := display
  debug := debug

end Formulary.Fixed
