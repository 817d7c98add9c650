import Formulary.Function.Registry
import Formulary.Number.Basic

/-!
# Function/Builtin — the functions and constants that every formula knows

Trigonometry, logarithms and square roots are computed over binary floats for every number type; the
rest stays in the number type. None of these names can be overwritten.
-/

namespace Formulary.Builtin

variable {T : Type} [Numeric T]

/-- A function of floats as a function of the number type. -/
def viaFloat (name : String) (f : Float → Float) : String × Callable T :=
  (name, .unary name fun x => liftArithmetic (Numeric.ofFloat (f (Numeric.toFloat x))))

/-- An operation of the number type as a function. -/
def native (name : String) (f : T → Except ArithmeticError T) : String × Callable T :=
  (name, .unary name fun x => liftArithmetic (f x))

/-- The first of two operands that does not equal itself, if one does not. -/
def unordered? (a b : T) : Option T :=
  if !Numeric.eq a a then some a else if !Numeric.eq b b then some b else none

/-- The larger of two numbers; an operand without order wins. -/
def max (a b : T) : T :=
  (unordered? a b).getD (if Numeric.lt a b then b else a)

/-- The smaller of two numbers; an operand without order wins. -/
def min (a b : T) : T :=
  (unordered? a b).getD (if Numeric.lt b a then b else a)

/-- The logarithm of a number to a base. -/
def logarithm (x base : T) : Except FormulaError T :=
  liftArithmetic (Numeric.ofFloat ((Numeric.toFloat x).log / (Numeric.toFloat base).log))

/-- One of two numbers, as a condition decides. Both are evaluated beforehand. -/
def choose (condition : Bool) (yes no : T) : Except FormulaError T :=
  .ok (if condition then yes else no)

/-- The functions in the order of their registration. -/
def functions : List (String × Callable T) :=
  [viaFloat "sin" Float.sin,
   viaFloat "cos" Float.cos,
   viaFloat "tan" Float.tan,
   viaFloat "csc" fun x => 1 / x.sin,
   viaFloat "sec" fun x => 1 / x.cos,
   viaFloat "cot" fun x => 1 / x.tan,
   viaFloat "asin" Float.asin,
   viaFloat "acos" Float.acos,
   viaFloat "atan" Float.atan,
   viaFloat "acot" fun x => (1 / x).atan,
   viaFloat "loge" Float.log,
   viaFloat "log10" Float.log10,
   viaFloat "sqrt" Float.sqrt,
   ("logn", .binary "logarithm" logarithm),
   native "abs" Numeric.abs,
   native "ceiling" Numeric.ceiling,
   native "floor" Numeric.floor,
   native "truncate" Numeric.truncate,
   ("max", .binary "max" fun a b => .ok (max a b)),
   ("min", .binary "min" fun a b => .ok (min a b)),
   ("if", .ternary "if" fun condition yes no => choose (Numeric.isNonzero condition) yes no),
   ("ifless", .quaternary "ifless" fun a b yes no => choose (Numeric.lt a b) yes no),
   ("ifmore", .quaternary "ifmore" fun a b yes no => choose (Numeric.lt b a) yes no),
   ("ifequal", .quaternary "ifequal" fun a b yes no => choose (Numeric.eq a b) yes no)]

/-- The constants in the order of their registration. -/
def constants : List (String × T) :=
  [("e", Numeric.e), ("pi", Numeric.pi)]

/-- The registry of these functions. -/
def functionRegistry : FunctionRegistry T :=
  (FunctionRegistry.empty.registerAll functions).1

/-- The registry of these constants. -/
def constantRegistry : ConstantRegistry T :=
  (ConstantRegistry.empty.registerAll constants).1

end Formulary.Builtin
