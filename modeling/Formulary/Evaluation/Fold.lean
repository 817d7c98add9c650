import Formulary.Evaluation.Walk

/-!
# Evaluation/Fold — computing closed subexpressions beforehand

`fold` replaces every subexpression without variables by its value. One whose evaluation fails stays,
with its operands folded, so that the formula still fails when it runs.
-/

namespace Formulary.Expr

variable {T : Type} [Numeric T]

/-- The value of an expression without variables as a number, or else another expression. -/
def valueOr (functions : FunctionRegistry T) (e : Expr T)
    (otherwise : Unit → Traced T (Expr T)) : Traced T (Expr T) :=
  if e.isClosed then do
    match ← (evaluate functions .empty e).run with
    | .ok value => pure (const value)
    | .error _ => otherwise ()
  else otherwise ()

mutual

/-- The expression with its closed subexpressions computed. -/
def fold (functions : FunctionRegistry T) : Expr T → Traced T (Expr T)
  | int i => pure (int i)
  | const x => pure (const x)
  | var name => pure (var name)
  | binary op left right =>
    valueOr functions (binary op left right) fun _ => do
      let left ← fold functions left
      let right ← fold functions right
      pure (binary op left right)
  | neg operand =>
    valueOr functions (neg operand) fun _ => do
      let operand ← fold functions operand
      pure (neg operand)
  | compare op left right =>
    valueOr functions (compare op left right) fun _ => do
      let left ← fold functions left
      let right ← fold functions right
      pure (compare op left right)
  | call name arguments =>
    valueOr functions (call name arguments) fun _ => do
      let arguments ← foldAll functions arguments
      pure (call name arguments)

/-- The expressions with their closed subexpressions computed. -/
def foldAll (functions : FunctionRegistry T) : List (Expr T) → Traced T (List (Expr T))
  | [] => pure []
  | e :: rest => do
    let e ← fold functions e
    let rest ← foldAll functions rest
    pure (e :: rest)

end

end Formulary.Expr
