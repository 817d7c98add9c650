import Formulary.Bindings
import Formulary.Expr.Depth
import Formulary.Function.Registry

/-!
# Evaluation/Walk — evaluating an expression node by node

`evaluate` gives expressions their meaning: operands from left to right, a function looked up before
its arguments are evaluated. `validate` finds the calls that no evaluation could make, without
evaluating anything.
-/

namespace Formulary

/-- What an expression becomes when it is built: its value and calls for any bindings. -/
abbrev Evaluator (T : Type) : Type :=
  Bindings T → Eval T T

/-- The value of a variable as written. -/
def readVariable {T : Type} (value : Option T) (written : String) : Eval T T :=
  match value with
  | some value => pure value
  | none => throw (.variableNotDefined written)

namespace Expr

variable {T : Type} [Numeric T]

mutual

/-- The value of an expression. -/
def evaluate (functions : FunctionRegistry T) (bindings : Bindings T) : Expr T → Eval T T
  | int i => pure (Numeric.ofInt32 i)
  | const x => pure x
  | var name => readVariable (bindings.get? name) name
  | binary op left right => do
    let a ← evaluate functions bindings left
    let b ← evaluate functions bindings right
    Eval.ofExcept (liftArithmetic (op.apply a b))
  | neg operand => do
    let a ← evaluate functions bindings operand
    Eval.ofExcept (liftArithmetic (Numeric.neg a))
  | compare op left right => do
    let a ← evaluate functions bindings left
    let b ← evaluate functions bindings right
    pure (op.apply a b)
  | call name arguments => do
    let info ← Eval.ofExcept (functions.resolve name arguments.length)
    let values ← evaluateAll functions bindings arguments
    info.invoke values

/-- The values of expressions, from left to right. -/
def evaluateAll (functions : FunctionRegistry T) (bindings : Bindings T) :
    List (Expr T) → Eval T (List T)
  | [] => pure []
  | e :: rest => do
    let value ← evaluate functions bindings e
    let values ← evaluateAll functions bindings rest
    pure (value :: values)

end

mutual

/-- Refuses an expression with a call that has no function of its name and number of arguments. -/
def validate (functions : FunctionRegistry T) : Expr T → Except FormulaError Unit
  | int _ | const _ | var _ => .ok ()
  | binary _ left right | compare _ left right => do
    validate functions left
    validate functions right
  | neg operand => validate functions operand
  | call name arguments => do
    let _ ← functions.resolve name arguments.length
    validateAll functions arguments

/-- Refuses a list with such an expression. -/
def validateAll (functions : FunctionRegistry T) : List (Expr T) → Except FormulaError Unit
  | [] => .ok ()
  | e :: rest => do
    validate functions e
    validateAll functions rest

end

end Expr

end Formulary
