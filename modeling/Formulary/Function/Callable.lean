import Formulary.Traced

/-!
# Function/Callable — function bodies and how they take their arguments

A body takes either a fixed, small number of arguments by position or a list of any length. `invoke`
hands it the arguments of a call: a list has the length that a positional body asks for, or the call
is refused (`invoke_positional`). Bodies are functions of their arguments alone.
-/

namespace Formulary

/-- The most arguments that a body takes by position. -/
def maxPositional : Nat := 6

/-- A function body. The label names it in the record of calls. -/
inductive Callable (T : Type) where
  | positional (label : String) (count : Nat) (small : count ≤ maxPositional)
      (body : Vector T count → Except FormulaError T)
  | slice (label : String) (body : List T → Except FormulaError T)

namespace Callable

variable {T : Type}

/-! ## Bodies with few arguments -/

def nullary (label : String) (f : Except FormulaError T) : Callable T :=
  positional label 0 (by decide) fun _ => f

def unary (label : String) (f : T → Except FormulaError T) : Callable T :=
  positional label 1 (by decide) fun v => f v[0]

def binary (label : String) (f : T → T → Except FormulaError T) : Callable T :=
  positional label 2 (by decide) fun v => f v[0] v[1]

def ternary (label : String) (f : T → T → T → Except FormulaError T) : Callable T :=
  positional label 3 (by decide) fun v => f v[0] v[1] v[2]

def quaternary (label : String) (f : T → T → T → T → Except FormulaError T) : Callable T :=
  positional label 4 (by decide) fun v => f v[0] v[1] v[2] v[3]

def quinary (label : String) (f : T → T → T → T → T → Except FormulaError T) : Callable T :=
  positional label 5 (by decide) fun v => f v[0] v[1] v[2] v[3] v[4]

def senary (label : String) (f : T → T → T → T → T → T → Except FormulaError T) : Callable T :=
  positional label 6 (by decide) fun v => f v[0] v[1] v[2] v[3] v[4] v[5]

/-! ## Calls -/

/-- The label of a body. -/
def label : Callable T → String
  | positional label .. | slice label _ => label

/-- The number of arguments that a positional body takes. -/
def count? : Callable T → Option Nat
  | positional _ count _ _ => some count
  | slice .. => none

/-- How a body takes its arguments, in one word. -/
def shapeName : Callable T → String
  | slice .. => "Slice"
  | positional _ count _ _ =>
    match count with
    | 0 => "Nullary"
    | 1 => "Unary"
    | 2 => "Binary"
    | 3 => "Ternary"
    | 4 => "Quaternary"
    | 5 => "Quinary"
    | _ => "Senary"

/-- Calls a body under the name of its function. -/
def invoke (callable : Callable T) (name : String) (arguments : List T) : Eval T T :=
  match callable with
  | positional label count _ body =>
    if h : arguments.length = count then do
      Traced.record ⟨name, label, arguments⟩
      Eval.ofExcept (body ⟨arguments.toArray, by simpa using h⟩)
    else throw (.arityMismatch name count arguments.length)
  | slice label body => do
    Traced.record ⟨name, label, arguments⟩
    Eval.ofExcept (body arguments)

/-- A body that takes its arguments by position is reached by just that many. -/
theorem invoke_positional {label : String} {count : Nat} (small : count ≤ maxPositional)
    (body : Vector T count → Except FormulaError T) (name : String) (v : Vector T count) :
    (positional label count small body).invoke name v.toList =
      (do Traced.record ⟨name, label, v.toList⟩; Eval.ofExcept (body v) : Eval T T) := by
  obtain ⟨⟨arguments⟩, rfl⟩ := v
  simp [invoke]

end Callable

end Formulary
