import Formulary.Error
import Formulary.Expr.Basic

/-!
# Expr/Depth — how deep an expression nests

Folding, building and evaluating descend one level at a time, so expressions may have `maxDepth`
levels at most. `depth` measures them with a list of pending nodes instead of descending itself;
`height` is the same number by recursion.
-/

namespace Formulary

/-- How many levels an expression may have. -/
def maxDepth : Nat := 512

namespace Expr

variable {T : Type}

/-- How many nodes are pending. -/
def pendingSize (pending : List (Expr T × Nat)) : Nat :=
  sizes (pending.map (·.1))

theorem sizes_append (xs ys : List (Expr T)) : sizes (xs ++ ys) = sizes xs + sizes ys := by
  induction xs with
  | nil => simp [sizes]
  | cons e rest ih => simp [sizes, ih, Nat.add_assoc]

/-- Opening a node leaves fewer nodes pending. -/
theorem sizes_children_lt (e : Expr T) : sizes e.children < e.size := by
  cases e <;> simp only [children, sizes, size] <;> omega

/-- The deepest level among the pending nodes, each with its level, and those already seen. -/
def deepest (found : Nat) : List (Expr T × Nat) → Nat
  | [] => found
  | (e, level) :: pending =>
    deepest (max found level) (e.children.map (·, level + 1) ++ pending)
termination_by pending => pendingSize pending
decreasing_by
  have := sizes_children_lt e
  simp only [pendingSize, List.map_append, List.map_map, sizes_append, List.map_cons, sizes]
  simpa [Function.comp_def] using this

/-- How many levels an expression has. -/
def depth (e : Expr T) : Nat :=
  deepest 0 [(e, 1)]

mutual

/-- How many levels an expression has, level by level. -/
def height : Expr T → Nat
  | int _ | const _ | var _ => 1
  | binary _ left right | compare _ left right => 1 + max left.height right.height
  | neg operand => 1 + operand.height
  | call _ arguments => 1 + heights arguments

/-- The most levels that an expression of a list has. -/
def heights : List (Expr T) → Nat
  | [] => 0
  | e :: rest => max e.height (heights rest)

end

/-- Refuses an expression with too many levels. -/
def checkDepth (e : Expr T) : Except FormulaError Unit :=
  if maxDepth < e.depth then .error (.tooDeep maxDepth) else .ok ()

end Expr

end Formulary
