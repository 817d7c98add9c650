import Formulary.Number.Basic
import Formulary.Number.Binary64.Text

/-!
# Number/Binary64/Basic — binary floating point as a number type

IEEE arithmetic on 64 bits. No operation fails: a division by zero yields an infinity or no number,
and so does an overflow.
-/

namespace Formulary.Binary64

/-- The whole number nearest to a float on the side of zero. -/
def truncate (x : Float) : Float :=
  if x < 0 then x.ceil else x.floor

/-- A whole number as a float. -/
def ofInt32 (i : Int32) : Float :=
  Float.ofInt i.toInt

instance : Numeric Float where
  zero := Float.ofBits 0
  one := Float.ofBits 0x3FF0000000000000
  e := Float.ofBits 0x4005BF0A8B145769
  pi := Float.ofBits 0x400921FB54442D18
  ofInt32 := ofInt32
  ofFloat x := .ok x
  toFloat x := x
  ofCanonical? := read?
  add a b := .ok (a + b)
  sub a b := .ok (a - b)
  mul a b := .ok (a * b)
  div a b := .ok (a / b)
  mod a b := .ok (remainder a b)
  neg a := .ok (-a)
  abs a := .ok a.abs
  floor a := .ok a.floor
  ceiling a := .ok a.ceil
  truncate a := .ok (truncate a)
  eq a b := a == b
  lt a b := a < b
  le a b := a ≤ b
  display := display
  debug := debug

end Formulary.Binary64
