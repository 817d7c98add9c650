import Formulary.Number.Basic

/-!
# Expr/Basic — expression trees

An `Expr` is a formula as a tree over a number type: numbers, variables, operators and function
calls. Names stand in it as written. `Expr.induct` is induction that reaches into argument lists.
-/

namespace Formulary

/-- Operators that compute a number from two. -/
inductive BinaryOp where
  | add
  | sub
  | mul
  | div
  | mod
  | power
deriving DecidableEq, Repr

/-- Operators that compare two numbers. -/
inductive CompareOp where
  | lt
  | le
  | gt
  | ge
  | eq
  | ne
deriving DecidableEq, Repr

/-- How an operator is written. -/
def BinaryOp.symbol : BinaryOp → List Char
  | add => ['+']
  | sub => ['-']
  | mul => ['*']
  | div => ['/']
  | mod => ['%']
  | power => ['^']

/-- How an operator is written. -/
def CompareOp.symbol : CompareOp → List Char
  | lt => ['<']
  | le => ['<', '=']
  | gt => ['>']
  | ge => ['>', '=']
  | eq => ['=', '=']
  | ne => ['!', '=']

/-- The operator written in a way. -/
def BinaryOp.ofSymbol? (symbol : List Char) : Option BinaryOp :=
  [add, sub, mul, div, mod, power].find? (·.symbol = symbol)

/-- The operator written in a way. -/
def CompareOp.ofSymbol? (symbol : List Char) : Option CompareOp :=
  [lt, le, gt, ge, eq, ne].find? (·.symbol = symbol)

/-- **Operators are read as they are written.** -/
@[simp] theorem BinaryOp.ofSymbol_symbol (op : BinaryOp) : ofSymbol? op.symbol = some op := by
  cases op <;> rfl

/-- **Operators are read as they are written.** -/
@[simp] theorem CompareOp.ofSymbol_symbol (op : CompareOp) : ofSymbol? op.symbol = some op := by
  cases op <;> rfl

/-- The number that an operator computes. -/
def BinaryOp.apply {T : Type} [Numeric T] (op : BinaryOp) (a b : T) : Except ArithmeticError T :=
  match op with
  | add => Numeric.add a b
  | sub => Numeric.sub a b
  | mul => Numeric.mul a b
  | div => Numeric.div a b
  | mod => Numeric.mod a b
  | power => Numeric.power a b

/-- Whether a comparison holds. -/
def CompareOp.holds {T : Type} [Numeric T] (op : CompareOp) (a b : T) : Bool :=
  match op with
  | lt => Numeric.lt a b
  | le => Numeric.le a b
  | gt => Numeric.lt b a
  | ge => Numeric.le b a
  | eq => Numeric.eq a b
  | ne => !Numeric.eq a b

/-- The outcome of a comparison as a number. -/
def CompareOp.apply {T : Type} [Numeric T] (op : CompareOp) (a b : T) : T :=
  Numeric.ofBool (op.holds a b)

/-- An expression over the number type `T`. -/
inductive Expr (T : Type) where
  | int (value : Int32)
  | const (value : T)
  | var (name : String)
  | binary (op : BinaryOp) (left right : Expr T)
  | neg (operand : Expr T)
  | compare (op : CompareOp) (left right : Expr T)
  | call (name : String) (arguments : List (Expr T))

namespace Expr

variable {T : Type}

/-- **Induction on expressions**, with a hypothesis for every argument of a call. -/
theorem induct {motive : Expr T → Prop} (int : ∀ i, motive (.int i)) (const : ∀ x, motive (.const x))
    (var : ∀ name, motive (.var name))
    (binary : ∀ op l r, motive l → motive r → motive (.binary op l r))
    (neg : ∀ e, motive e → motive (.neg e))
    (compare : ∀ op l r, motive l → motive r → motive (.compare op l r))
    (call : ∀ name args, (∀ a ∈ args, motive a) → motive (.call name args)) (e : Expr T) :
    motive e :=
  Expr.rec (motive_2 := fun args => ∀ a ∈ args, motive a) int const var
    (fun op l r => binary op l r) (fun e => neg e) (fun op l r => compare op l r)
    (fun name args => call name args) (fun _ h => absurd h List.not_mem_nil)
    (fun _ _ hhead htail a ha => by
      rcases List.mem_cons.1 ha with rfl | ha
      · exact hhead
      · exact htail a ha) e

/-- The expressions directly below one. -/
def children : Expr T → List (Expr T)
  | int _ | const _ | var _ => []
  | binary _ left right | compare _ left right => [left, right]
  | neg operand => [operand]
  | call _ arguments => arguments

/-- Whether an expression is a number or a variable. A call without arguments is neither. -/
def isLeaf : Expr T → Bool
  | int _ | const _ | var _ => true
  | _ => false

mutual

/-- How many nodes an expression has. -/
def size : Expr T → Nat
  | int _ | const _ | var _ => 1
  | binary _ left right | compare _ left right => 1 + left.size + right.size
  | neg operand => 1 + operand.size
  | call _ arguments => 1 + sizes arguments

/-- How many nodes a list of expressions has. -/
def sizes : List (Expr T) → Nat
  | [] => 0
  | e :: rest => e.size + sizes rest

end

theorem size_pos (e : Expr T) : 0 < e.size := by
  cases e <;> simp only [size] <;> omega

mutual

/-- Whether no variable occurs in an expression. Functions count as depending on their arguments
only. -/
def isClosed : Expr T → Bool
  | int _ | const _ => true
  | var _ => false
  | binary _ left right | compare _ left right => left.isClosed && right.isClosed
  | neg operand => operand.isClosed
  | call _ arguments => areClosed arguments

/-- Whether no variable occurs in a list of expressions. -/
def areClosed : List (Expr T) → Bool
  | [] => true
  | e :: rest => e.isClosed && areClosed rest

end

mutual

/-- Whether two expressions are the same, with numbers compared as numbers. -/
def same [Numeric T] : Expr T → Expr T → Bool
  | int a, int b => a == b
  | const a, const b => Numeric.eq a b
  | var a, var b => a == b
  | binary op l r, binary op' l' r' => op == op' && l.same l' && r.same r'
  | neg a, neg b => a.same b
  | compare op l r, compare op' l' r' => op == op' && l.same l' && r.same r'
  | call name args, call name' args' => name == name' && sames args args'
  | _, _ => false

/-- Whether two lists hold the same expressions in the same order. -/
def sames [Numeric T] : List (Expr T) → List (Expr T) → Bool
  | [], [] => true
  | a :: as, b :: bs => a.same b && sames as bs
  | _, _ => false

end

end Expr

end Formulary
