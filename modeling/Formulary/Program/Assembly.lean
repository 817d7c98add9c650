import Formulary.Evaluation.Walk
import Formulary.Program.Instruction

/-!
# Program/Assembly — lowering an expression to a stack program

`compile` emits the instructions of an expression after those of its operands and gathers constants,
variables and functions in pools, which operands point into. A variable enters its pool once per
folded name, with its first spelling; a function once per name. While instructions are emitted the
height of the stack after them is tracked, and its maximum becomes part of the program.
-/

namespace Formulary

/-- A function that a program calls. -/
structure FunctionRef (T : Type) where
  name : String
  callable : Callable T

/-- A variable that a program loads. -/
structure VariableRef where
  folded : String
  /-- The first spelling of the name, for messages. -/
  written : String
deriving DecidableEq, Repr

/-- Instructions and pools. -/
structure Program (T : Type) where
  instructions : Array Instruction
  constants : Array T
  vars : Array VariableRef
  functions : Array (FunctionRef T)
  /-- The most values that the stack holds during a run. -/
  maxStack : Nat

/-- The variables that a program loads, by folded name. -/
def Program.variables {T : Type} (program : Program T) : List String :=
  program.vars.toList.map (·.folded)

/-- A program under construction. -/
structure Assembly (T : Type) where
  instructions : Array Instruction
  constants : Array T
  vars : Array VariableRef
  functions : Array (FunctionRef T)
  /-- The height of the stack after the instructions so far. -/
  height : Nat
  maxHeight : Nat

/-- Steps that extend a program under construction and may fail. -/
abbrev Assemble (T : Type) : Type → Type :=
  StateT (Assembly T) (Except FormulaError)

namespace Assembly

variable {T : Type}

/-- Nothing is emitted yet. -/
def empty : Assembly T := ⟨#[], #[], #[], #[], 0, 0⟩

/-- The assembly with one more instruction, which takes `pops` values off the stack and puts one on
it. -/
def push (s : Assembly T) (instruction : Instruction) (pops : Nat) : Assembly T :=
  let height := s.height - pops + 1
  { s with
    instructions := s.instructions.push instruction
    height
    maxHeight := max s.maxHeight height }

/-- Emits an instruction. -/
def emit (instruction : Instruction) (pops : Nat) : Assemble T Unit :=
  modify (·.push instruction pops)

/-- Emits an instruction that pushes a constant. -/
def emitConstant (value : T) : Assemble T Unit := do
  let index ← operand (← get).constants.size
  modify fun s => { s with constants := s.constants.push value }
  emit (.pack .pushConst index 0) 0

/-- The place of a variable in its pool. -/
def variableIndex (name : String) : Assemble T Nat := do
  let folded := Text.foldName name
  match (← get).vars.findIdx? (·.folded == folded) with
  | some index => pure index
  | none =>
    let index ← operand (← get).vars.size
    modify fun s => { s with vars := s.vars.push ⟨folded, name⟩ }
    pure index

/-- The place of a function in its pool. -/
def functionIndex (info : FunctionInfo T) : Assemble T Nat := do
  match (← get).functions.findIdx? (·.name == info.name) with
  | some index => pure index
  | none =>
    let index ← operand (← get).functions.size
    modify fun s => { s with functions := s.functions.push ⟨info.name, info.callable⟩ }
    pure index

variable [Numeric T]

mutual

/-- Emits the instructions of an expression. -/
def lower (functions : FunctionRegistry T) : Expr T → Assemble T Unit
  | .int i => emitConstant (Numeric.ofInt32 i)
  | .const x => emitConstant x
  | .var name => do
    let index ← variableIndex name
    emit (.pack .loadVar index 0) 0
  | .binary op left right => do
    lower functions left
    lower functions right
    emit (.pack (.binary op) 0 0) 2
  | .neg operand => do
    lower functions operand
    emit (.pack .neg 0 0) 1
  | .compare op left right => do
    lower functions left
    lower functions right
    emit (.pack (.compare op) 0 0) 2
  | .call name arguments => do
    let info ← functions.resolve name arguments.length
    let index ← functionIndex info
    lowerAll functions arguments
    let count ← operand arguments.length
    emit (.pack .call index count) count

/-- Emits the instructions of expressions, one after the other. -/
def lowerAll (functions : FunctionRegistry T) : List (Expr T) → Assemble T Unit
  | [] => pure ()
  | e :: rest => do
    lower functions e
    lowerAll functions rest

end

/-- The program that is assembled. -/
def toProgram (s : Assembly T) : Program T :=
  ⟨s.instructions, s.constants, s.vars, s.functions, s.maxHeight⟩

end Assembly

namespace Program

variable {T : Type} [Numeric T]

/-- The program of an expression. -/
def compile (functions : FunctionRegistry T) (e : Expr T) : Except FormulaError (Program T) := do
  e.checkDepth
  let (_, s) ← (Assembly.lower functions e).run .empty
  pure s.toProgram

end Program

end Formulary
