import Formulary.Number.Basic

/-!
# Error — why a formula has no value

Every way in which reading, building or evaluating a formula can fail, as a cause with the data that
the text shown for it needs.
-/

namespace Formulary

/-- Why a formula has no value. -/
inductive FormulaError where
  | variableNotDefined (name : String)
  | unknownFunction (name : String)
  | unknownConstant (name : String)
  | duplicateFunction (name : String)
  | duplicateConstant (name : String)
  | arityMismatch (name : String) (expected found : Nat)
  | invalidNumber (text : String)
  | reservedVariableName (name : String)
  | duplicateVariable (name : String)
  | tooDeep (limit : Nat)
  | programTooLarge (limit : Nat)
  | stackUnderflow
  | unexpectedEnd
  /-- The position counts the bytes before the token. -/
  | unexpectedToken (position : Nat)
  | emptyFormula
  | arithmetic (cause : ArithmeticError)
deriving DecidableEq, Repr

namespace FormulaError

/-- The text shown for an error. -/
def message : FormulaError → String
  | variableNotDefined name => s!"the variable \"{name}\" used is not defined"
  | unknownFunction name => s!"the function \"{name}\" is not defined"
  | unknownConstant name => s!"the constant \"{name}\" is not defined"
  | duplicateFunction name => s!"the function \"{name}\" cannot be overwritten"
  | duplicateConstant name => s!"the constant \"{name}\" cannot be overwritten"
  | arityMismatch name expected found =>
    s!"the function \"{name}\" expects {expected} argument(s) but was called with {found}"
  | invalidNumber text => s!"\"{text}\" is not a valid number"
  | reservedVariableName name =>
    s!"the name \"{name}\" is reserved and cannot be used as a variable"
  | duplicateVariable name => s!"the variable \"{name}\" is bound more than once"
  | tooDeep limit => s!"the formula nests deeper than {limit} levels"
  | programTooLarge limit => s!"the formula needs more than {limit} bytecode slots"
  | stackUnderflow => "bytecode stack underflow"
  | unexpectedEnd => "unexpected end of input"
  | unexpectedToken position => s!"unexpected token at byte {position}"
  | emptyFormula => "the formula is empty"
  | arithmetic cause => cause.message

end FormulaError

/-- An arithmetic outcome as an outcome of a formula. -/
def liftArithmetic {α : Type} : Except ArithmeticError α → Except FormulaError α
  | .ok x => .ok x
  | .error cause => .error (.arithmetic cause)

@[simp] theorem liftArithmetic_ok {α : Type} (x : α) :
    liftArithmetic (.ok x) = .ok x := rfl

@[simp] theorem liftArithmetic_error {α : Type} (cause : ArithmeticError) :
    liftArithmetic (.error cause : Except ArithmeticError α) = .error (.arithmetic cause) := rfl

end Formulary
