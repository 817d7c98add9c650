import Formulary.Number.Binary64.Parts
import Formulary.Text.Hex

/-!
# Number/Binary64/Pattern — floats by their bit patterns

A float written as its 64 bits in sixteen hexadecimal digits comes back exactly, with the sign of a
zero. All floats that are no number are written alike.
-/

namespace Formulary.Binary64

open Text

/-- How the float that is no number is written. -/
def nanPattern : List Char := "nan".toList

/-- The bits of a float in hexadecimal. -/
def pattern (x : Float) : List Char :=
  if x.isNaN then nanPattern
  else
    let digits := hexDigits x.toBits.toNat
    List.replicate (16 - digits.length) '0' ++ digits

/-- The float with a pattern. -/
def ofPattern? (cs : List Char) : Option Float :=
  if cs = nanPattern then some nan
  else if cs.length = 16 then (ofHex? cs).map fun bits => Float.ofBits (UInt64.ofNat bits)
  else none

end Formulary.Binary64
