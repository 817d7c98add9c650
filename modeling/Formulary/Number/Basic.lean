/-!
# Number/Basic — what a number type of formulas provides

A formula computes over one number type. `Numeric` lists what such a type provides: arithmetic that
may fail, comparisons, reading of canonical text and two printed forms. Comparisons yield one and
zero, so that formulas can compute with their outcome.
-/

namespace Formulary

/-- Why an operation on numbers has no result. -/
inductive ArithmeticError where
  | divideByZero
  | overflow
  | notRepresentable
deriving DecidableEq, Repr

/-- The text shown for an arithmetic error. -/
def ArithmeticError.message : ArithmeticError → String
  | .divideByZero => "division by zero"
  | .overflow => "arithmetic overflow"
  | .notRepresentable => "value is not representable in the target numeric type"

/-- A number type that formulas can compute with. -/
class Numeric (T : Type) where
  zero : T
  one : T
  /-- Euler's number, as near as the type comes. -/
  e : T
  /-- The circle number, as near as the type comes. -/
  pi : T
  ofInt32 : Int32 → T
  ofFloat : Float → Except ArithmeticError T
  toFloat : T → Float
  /-- Reads canonical text: optional sign, ASCII digits with at most one point, exponent. -/
  ofCanonical? : List Char → Option T
  add : T → T → Except ArithmeticError T
  sub : T → T → Except ArithmeticError T
  mul : T → T → Except ArithmeticError T
  div : T → T → Except ArithmeticError T
  /-- The remainder with the sign of the dividend. -/
  mod : T → T → Except ArithmeticError T
  neg : T → Except ArithmeticError T
  abs : T → Except ArithmeticError T
  floor : T → Except ArithmeticError T
  ceiling : T → Except ArithmeticError T
  truncate : T → Except ArithmeticError T
  eq : T → T → Bool
  lt : T → T → Bool
  le : T → T → Bool
  /-- The short form shown to people. -/
  display : T → List Char
  /-- The form that tells any two values apart. -/
  debug : T → List Char

namespace Numeric

variable {T : Type} [Numeric T]

/-- Powers are computed over binary floating point for every number type. -/
def power (base exponent : T) : Except ArithmeticError T :=
  ofFloat (Float.pow (toFloat base) (toFloat exponent))

/-- One for true and zero for false. -/
def ofBool (b : Bool) : T :=
  if b then one else zero

/-- Whether a number counts as true. -/
def isNonzero (x : T) : Bool :=
  !eq x zero

/-- The order of two numbers, if they have one. -/
def compare? (a b : T) : Option Ordering :=
  if lt a b then some .lt
  else if eq a b then some .eq
  else if lt b a then some .gt
  else none

end Numeric

end Formulary
