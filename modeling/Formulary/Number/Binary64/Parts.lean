/-!
# Number/Binary64/Parts — a binary float taken apart

Every finite float is a whole multiple of the smallest positive one, `2 ^ -1074`. `Parts.ofFloat`
reads sign and multiple off the bit pattern; `ofUnits` goes back. Exact arithmetic on floats is then
arithmetic on natural numbers, as for the remainder of a division.
-/

namespace Formulary.Binary64

/-- What a bit pattern stands for. -/
inductive Parts where
  | nan
  | infinite (negative : Bool)
  /-- The value `± units · 2 ^ -1074`. -/
  | finite (negative : Bool) (units : Nat)
deriving DecidableEq, Repr

/-- How many values the 52 bits of a fraction have. -/
def fractionRange : Nat := 4503599627370496

/-- The value of the sign bit. -/
def signBit : Nat := 9223372036854775808

/-- Reads sign, exponent and fraction off the bits of a float. -/
def Parts.ofFloat (x : Float) : Parts :=
  let bits := x.toBits.toNat
  let negative : Bool := signBit ≤ bits
  let biased := bits / fractionRange % 2048
  let fraction := bits % fractionRange
  if biased = 2047 then if fraction = 0 then .infinite negative else .nan
  else if biased = 0 then .finite negative fraction
  else .finite negative ((fractionRange + fraction) <<< (biased - 1))

/-- The float with a sign and a number of units. The units must fit into 53 bits, zeros at their end
not counted. -/
def ofUnits (negative : Bool) (units : Nat) : Float :=
  let shift := units.log2 - 52
  let bits := shift * fractionRange + units >>> shift
  Float.ofBits (UInt64.ofNat (if negative then signBit + bits else bits))

/-- The float that is no number. -/
def nan : Float :=
  Float.ofBits 0x7FF8000000000000

/-- The remainder of dividing two floats, exact and with the sign of the dividend. -/
def remainder (a b : Float) : Float :=
  match Parts.ofFloat a, Parts.ofFloat b with
  | .finite negative dividend, .finite _ divisor =>
    if divisor = 0 then nan else ofUnits negative (dividend % divisor)
  | .finite _ _, .infinite _ => a
  | _, _ => nan

end Formulary.Binary64
