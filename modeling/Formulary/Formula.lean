import Formulary.Evaluation.Closure
import Formulary.Program.Machine

/-!
# Formula — expressions built for evaluation

A `Backend` turns an expression into an `Evaluator`, checking its depth and its calls beforehand. A
`Formula` is an evaluator with an optional `Scope`: the registries that the bindings of an evaluation
are checked against and completed from.
-/

namespace Formulary

/-! ## Backends -/

/-- How expressions are evaluated. -/
inductive Backend where
  /-- Walks the expression on every evaluation. -/
  | interpreted
  /-- Turns the expression into nested functions once. -/
  | compiled
  /-- Lowers the expression to a stack program once. -/
  | bytecode
deriving DecidableEq, Repr

namespace Backend

variable {T : Type} [Numeric T]

/-- Builds an expression against a registry of functions. -/
def build (backend : Backend) (functions : FunctionRegistry T) (e : Expr T) :
    Except FormulaError (Evaluator T) :=
  match backend with
  | interpreted => do
    e.checkDepth
    e.validate functions
    pure fun bindings => e.evaluate functions bindings
  | compiled => Closure.compile functions e
  | bytecode => do
    let program ← Program.compile functions e
    pure program.run

/-- Evaluates an expression once. The interpreter finds a call without a function only when it comes
to it. -/
def execute (backend : Backend) (functions : FunctionRegistry T) (e : Expr T)
    (bindings : Bindings T) : Eval T T :=
  match backend with
  | interpreted => do
    Eval.ofExcept e.checkDepth
    e.evaluate functions bindings
  | backend => do
    let evaluator ← Eval.ofExcept (backend.build functions e)
    evaluator bindings

end Backend

/-! ## Scopes -/

/-- The registries that the bindings of an evaluation are checked against and completed from. -/
structure Scope (T : Type) where
  constants : ConstantRegistry T
  functions : FunctionRegistry T

namespace Scope

variable {T : Type}

/-- Whether a name cannot be bound: a function has it, or a constant that is not overwritable. -/
def isReserved (scope : Scope T) (name : String) : Bool :=
  (scope.constants.protected? name).isSome || scope.functions.contains name

/-- Bindings with every constant that has no value yet. -/
def merge (scope : Scope T) (bindings : Bindings T) : Bindings T :=
  scope.constants.infos.entries.foldl
    (fun b p => if b.contains p.1 then b else b.insertFolded p.1 p.2.value) bindings

/-- Refuses bindings of reserved names and adds the constants to others. -/
def prepare (scope : Scope T) (bindings : Bindings T) : Except FormulaError (Bindings T) :=
  match bindings.entries.find? fun p => scope.isReserved p.1 with
  | some (name, _) => .error (.reservedVariableName name)
  | none =>
    if scope.constants.infos.names.all bindings.contains then .ok bindings
    else .ok (scope.merge bindings)

end Scope

/-! ## Formulas -/

/-- A formula that is ready for evaluation. -/
structure Formula (T : Type) where
  evaluator : Evaluator T
  scope : Option (Scope T)

namespace Formula

variable {T : Type}

/-- A formula that sees the bindings of an evaluation as they are. -/
def ofEvaluator (evaluator : Evaluator T) : Formula T := ⟨evaluator, none⟩

/-- The formula with registries to check and complete bindings. -/
def withScope (formula : Formula T) (scope : Scope T) : Formula T :=
  { formula with scope := some scope }

/-- The value under bindings. -/
def evaluateBindings (formula : Formula T) (bindings : Bindings T) : Eval T T :=
  match formula.scope with
  | none => formula.evaluator bindings
  | some scope => do
    let bindings ← Eval.ofExcept (scope.prepare bindings)
    formula.evaluator bindings

/-- The value under a caller's variables. -/
def evaluate (formula : Formula T) (vars : NameMap T) : Eval T T := do
  let bindings ← Eval.ofExcept (Bindings.ofVariables? vars)
  formula.evaluateBindings bindings

/-- The form shown for diagnosis. -/
def debug (formula : Formula T) : String :=
  s!"Formula \x7b scoped: {formula.scope.isSome}, .. \x7d"

end Formula

end Formulary
