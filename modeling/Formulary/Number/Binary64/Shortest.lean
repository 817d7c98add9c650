import Formulary.Number.Binary64.Parts
import Formulary.Text.Digits

/-!
# Number/Binary64/Shortest — the fewest digits that read back

A positive float is printed with the fewest digits that read back as that float. The search goes
through one, two, … seventeen digits; on each grid it tries the two neighbours of the value, the
nearer first and of two equally near ones the larger. Whether a decimal reads back is decided in whole
numbers: `nearestUnits` rounds to 53 bits, ties to even. `Decimal.toFloat` is the reading.
-/

namespace Formulary.Binary64

/-- The number `digits · 10 ^ exponent`. -/
structure Decimal where
  digits : Nat
  exponent : Int
deriving DecidableEq, Repr

namespace Decimal

/-- The float nearest to a decimal. -/
def toFloat (d : Decimal) : Float :=
  if 0 ≤ d.exponent then Float.ofScientific d.digits false d.exponent.toNat
  else Float.ofScientific d.digits true (-d.exponent).toNat

/-- The same number without zeros at the end of its digits. -/
def strip (digits : Nat) (exponent : Int) : Decimal :=
  if h : digits ≠ 0 ∧ digits % 10 = 0 then strip (digits / 10) (exponent + 1)
  else ⟨digits, exponent⟩
termination_by digits
decreasing_by omega

end Decimal

/-- How many times `10 ^ -1074` goes into a unit, exactly. -/
def unitDigits : Nat :=
  Nat.pow 5 1074

/-- A number of units is this many times `10 ^ -1074`, exactly. -/
def exactDigits (units : Nat) : Nat :=
  units * unitDigits

/-- A decimal is this many times `10 ^ -1074`, if it has no digits beyond those. -/
def Decimal.exact (d : Decimal) : Nat :=
  d.digits * Text.tenPower (d.exponent + 1074).toNat

/-- A quotient rounded to nearest, ties to even. -/
def roundDiv (a b : Nat) : Nat :=
  if 2 * (a % b) < b ∨ (2 * (a % b) = b ∧ a / b % 2 = 0) then a / b else a / b + 1

/-- The units of the float nearest to `exact · 10 ^ -1074`: 53 bits, zeros at their end not counted. -/
def nearestUnits (exact : Nat) : Nat :=
  let grid := 1 <<< ((exact / unitDigits).log2 - 52)
  roundDiv exact (unitDigits * grid) * grid

/-- The two neighbours of `exact · 10 ^ -1074` among the decimals that leave out its last `cut`
digits, the nearer first. -/
def neighbours (exact cut : Nat) : List Decimal :=
  let grid := Text.tenPower cut
  let below : Decimal := ⟨exact / grid, cut - 1074⟩
  let above : Decimal := ⟨exact / grid + 1, cut - 1074⟩
  if 2 * (exact % grid) < grid then [below, above] else [above, below]

/-- The decimals to try for a number of units, the ones with fewer digits first. -/
def candidates (units : Nat) : List Decimal :=
  let exact := exactDigits units
  let size := (Text.decimal exact).length
  (List.range 17).flatMap fun i => neighbours exact (size - (i + 1))

/-- The shortest decimal that reads back as the float with this many units. -/
def shortest (units : Nat) : Decimal :=
  let found := (candidates units).find? fun d => nearestUnits d.exact == units
  let d := found.getD ⟨exactDigits units, -1074⟩
  Decimal.strip d.digits d.exponent

end Formulary.Binary64
