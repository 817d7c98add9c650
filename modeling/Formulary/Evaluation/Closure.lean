import Formulary.Evaluation.Walk

/-!
# Evaluation/Closure — expressions as nested functions

`close` turns an expression into a function of the bindings once and for all: operators are chosen,
names folded and functions looked up while the function is made, not when it runs.
-/

namespace Formulary.Closure

variable {T : Type}

/-! ## Calls -/

/-- Arguments from left to right. -/
def each (arguments : List (Evaluator T)) (bindings : Bindings T) : Eval T (List T) :=
  match arguments with
  | [] => pure []
  | argument :: rest => do
    let value ← argument bindings
    let values ← each rest bindings
    pure (value :: values)

/-- Just as many arguments as a body takes by position. -/
def take (name : String) (count : Nat) (arguments : List (Evaluator T)) :
    Except FormulaError (Vector (Evaluator T) count) :=
  if h : arguments.length = count then .ok ⟨arguments.toArray, h⟩
  else .error (.arityMismatch name count arguments.length)

/-- A body that is called with the values of its arguments by position. -/
def byPosition (name label : String) {count : Nat} (body : Vector T count → Except FormulaError T)
    (arguments : Vector (Evaluator T) count) (bindings : Bindings T) : Eval T T := do
  let values : Vector T count ← arguments.mapM (· bindings)
  Traced.record ⟨name, label, values.toList⟩
  Eval.ofExcept (body values)

/-- A body that is called with the list of the values of its arguments. -/
def byList (name label : String) (body : List T → Except FormulaError T)
    (arguments : List (Evaluator T)) (bindings : Bindings T) : Eval T T := do
  let values ← each arguments bindings
  Traced.record ⟨name, label, values⟩
  Eval.ofExcept (body values)

/-- A call. The closure has the body at hand and calls it itself. -/
def call (name : String) (callable : Callable T) (arguments : List (Evaluator T)) :
    Except FormulaError (Evaluator T) :=
  match callable with
  | .positional label count _ body => (take name count arguments).map (byPosition name label body)
  | .slice label body => .ok (byList name label body arguments)

variable [Numeric T]

/-! ## Names and operators -/

/-- A variable, its name folded beforehand. -/
def readNamed (name : String) : Evaluator T :=
  let folded := Text.foldName name
  fun bindings => readVariable (bindings.getFolded? folded) name

/-- An operator on two operands. -/
def binary (op : BinaryOp) (left right : Evaluator T) : Evaluator T := fun bindings => do
  let a ← left bindings
  let b ← right bindings
  Eval.ofExcept (liftArithmetic (op.apply a b))

/-- A changed sign. -/
def negate (operand : Evaluator T) : Evaluator T := fun bindings => do
  let a ← operand bindings
  Eval.ofExcept (liftArithmetic (Numeric.neg a))

/-- A comparison of two operands. -/
def compare (op : CompareOp) (left right : Evaluator T) : Evaluator T := fun bindings => do
  let a ← left bindings
  let b ← right bindings
  pure (op.apply a b)

/-! ## Expressions -/

mutual

/-- The function that an expression stands for. -/
def close (functions : FunctionRegistry T) : Expr T → Except FormulaError (Evaluator T)
  | .int i => .ok fun _ => pure (Numeric.ofInt32 i)
  | .const x => .ok fun _ => pure x
  | .var name => .ok (readNamed name)
  | .binary op left right => do
    let left ← close functions left
    let right ← close functions right
    pure (binary op left right)
  | .neg operand => do
    let operand ← close functions operand
    pure (negate operand)
  | .compare op left right => do
    let left ← close functions left
    let right ← close functions right
    pure (compare op left right)
  | .call name arguments => do
    let info ← functions.resolve name arguments.length
    let arguments ← closeAll functions arguments
    call info.name info.callable arguments

/-- The functions that a list of expressions stands for. -/
def closeAll (functions : FunctionRegistry T) :
    List (Expr T) → Except FormulaError (List (Evaluator T))
  | [] => .ok []
  | e :: rest => do
    let closure ← close functions e
    let closures ← closeAll functions rest
    pure (closure :: closures)

end

/-- The function that an expression of acceptable depth stands for. -/
def compile (functions : FunctionRegistry T) (e : Expr T) : Except FormulaError (Evaluator T) := do
  e.checkDepth
  close functions e

end Formulary.Closure
