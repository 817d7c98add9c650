import Formulary.Program.Assembly

/-!
# Program/Machine — running a stack program

The machine works through the instructions of a program with a stack of values, the top first. It
refuses an instruction that finds too few values, or points outside a pool; programs that come from
expressions have none.
-/

namespace Formulary.Program

variable {T : Type} [Numeric T]

/-- The stack after an operation on its two topmost values. -/
def onTwo (f : T → T → Except FormulaError T) : List T → Eval T (List T)
  | right :: left :: stack => do
    let value ← Eval.ofExcept (f left right)
    pure (value :: stack)
  | _ => throw .stackUnderflow

/-- The stack after an instruction. -/
def step (program : Program T) (bindings : Bindings T) (instruction : Instruction)
    (stack : List T) : Eval T (List T) :=
  match instruction.op with
  | .pushConst =>
    match program.constants[instruction.a]? with
    | some value => pure (value :: stack)
    | none => throw .stackUnderflow
  | .loadVar =>
    match program.vars[instruction.a]? with
    | some ref => do
      let value ← readVariable (bindings.getFolded? ref.folded) ref.written
      pure (value :: stack)
    | none => throw .stackUnderflow
  | .neg =>
    match stack with
    | value :: stack => do
      let value ← Eval.ofExcept (liftArithmetic (Numeric.neg value))
      pure (value :: stack)
    | [] => throw .stackUnderflow
  | .binary op => onTwo (fun a b => liftArithmetic (op.apply a b)) stack
  | .compare op => onTwo (fun a b => .ok (op.apply a b)) stack
  | .call =>
    match program.functions[instruction.a]? with
    | some ref =>
      if instruction.b ≤ stack.length then do
        let value ← ref.callable.invoke ref.name (stack.take instruction.b).reverse
        pure (value :: stack.drop instruction.b)
      else throw .stackUnderflow
    | none => throw .stackUnderflow

/-- The stack after some instructions. -/
def steps (program : Program T) (bindings : Bindings T) :
    List Instruction → List T → Eval T (List T)
  | [], stack => pure stack
  | instruction :: rest, stack => do
    let stack ← step program bindings instruction stack
    steps program bindings rest stack

/-- The value that a program leaves on top of the stack. -/
def run (program : Program T) : Evaluator T := fun bindings => do
  match ← steps program bindings program.instructions.toList [] with
  | value :: _ => pure value
  | [] => throw .stackUnderflow

end Formulary.Program
