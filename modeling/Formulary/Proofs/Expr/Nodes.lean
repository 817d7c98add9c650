import Formulary.Expr.Basic

/-!
# Proofs/Expr/Nodes — what occurs in an expression

`nodes` lists an expression and everything below it, from left to right and a node before its
operands. Its constants, variables and calls are read off the list, in this order. `postorder` lists a
node after its operands, as they are evaluated; for leaves this is the same order.
-/

namespace Formulary.Expr

variable {T : Type}

mutual

/-- An expression and those below it. -/
def nodes : Expr T → List (Expr T)
  | int i => [int i]
  | const x => [const x]
  | var name => [var name]
  | binary op left right => binary op left right :: (nodes left ++ nodes right)
  | neg operand => neg operand :: nodes operand
  | compare op left right => compare op left right :: (nodes left ++ nodes right)
  | call name arguments => call name arguments :: nodesAll arguments

/-- The nodes of expressions, one after the other. -/
def nodesAll : List (Expr T) → List (Expr T)
  | [] => []
  | e :: rest => nodes e ++ nodesAll rest

end

mutual

/-- An expression and those below it, operands first. -/
def postorder : Expr T → List (Expr T)
  | int i => [int i]
  | const x => [const x]
  | var name => [var name]
  | binary op left right => postorder left ++ postorder right ++ [binary op left right]
  | neg operand => postorder operand ++ [neg operand]
  | compare op left right => postorder left ++ postorder right ++ [compare op left right]
  | call name arguments => postorderAll arguments ++ [call name arguments]

/-- The nodes of expressions, one after the other. -/
def postorderAll : List (Expr T) → List (Expr T)
  | [] => []
  | e :: rest => postorder e ++ postorderAll rest

end

theorem nodesAll_eq (arguments : List (Expr T)) : nodesAll arguments = arguments.flatMap nodes := by
  induction arguments with
  | nil => rfl
  | cons e rest ih => rw [nodesAll, List.flatMap_cons, ih]

/-- The nodes of an expression are itself and those of the expressions directly below it. -/
theorem nodes_eq (e : Expr T) : e.nodes = e :: e.children.flatMap nodes := by
  cases e with
  | call name arguments => rw [nodes, nodesAll_eq, children]
  | _ => simp [nodes, children]

theorem nodes_subset_nodesAll {arguments : List (Expr T)} {e : Expr T} (he : e ∈ arguments) :
    e.nodes ⊆ nodesAll arguments := by
  rw [nodesAll_eq]
  exact fun node hnode => List.mem_flatMap.2 ⟨e, he, hnode⟩

theorem not_mem_nodesAll_of_areClosed {arguments : List (Expr T)} {name : String}
    (hargs : ∀ e ∈ arguments, e.isClosed = true → var name ∉ e.nodes)
    (h : areClosed arguments = true) : var name ∉ nodesAll arguments := by
  induction arguments with
  | nil => exact List.not_mem_nil
  | cons e rest ih =>
    rw [areClosed, Bool.and_eq_true] at h
    rw [nodesAll, List.mem_append, not_or]
    exact ⟨hargs e List.mem_cons_self h.1, ih (fun e he => hargs e (List.mem_cons_of_mem _ he)) h.2⟩

/-- An expression without variables has no node that reads one. -/
theorem not_mem_nodes_of_isClosed {e : Expr T} {name : String} (h : e.isClosed = true) :
    var name ∉ e.nodes := by
  induction e using induct with
  | int i => simp [nodes]
  | const x => simp [nodes]
  | var other => cases h
  | binary op left right hleft hright =>
    rw [isClosed, Bool.and_eq_true] at h
    simp [nodes, hleft h.1, hright h.2]
  | neg operand hoperand =>
    rw [isClosed] at h
    simp [nodes, hoperand h]
  | compare op left right hleft hright =>
    rw [isClosed, Bool.and_eq_true] at h
    simp [nodes, hleft h.1, hright h.2]
  | call function arguments harguments =>
    rw [isClosed] at h
    simp [nodes, not_mem_nodesAll_of_areClosed harguments h]

section Postorder

variable {α : Type} {f : Expr T → Option α}

theorem filterMap_postorderAll {arguments : List (Expr T)}
    (h : ∀ e ∈ arguments, (postorder e).filterMap f = (nodes e).filterMap f) :
    (postorderAll arguments).filterMap f = (nodesAll arguments).filterMap f := by
  induction arguments with
  | nil => rfl
  | cons e rest ih =>
    rw [postorderAll, nodesAll, List.filterMap_append, List.filterMap_append,
      h e List.mem_cons_self, ih fun e he => h e (List.mem_cons_of_mem _ he)]

/-- **What is read off the leaves** comes in the same order whether operands or operators are listed
first. -/
theorem filterMap_postorder (hf : ∀ e, e.isLeaf = false → f e = none) (e : Expr T) :
    e.postorder.filterMap f = e.nodes.filterMap f := by
  induction e using induct with
  | int i => rfl
  | const x => rfl
  | var name => rfl
  | binary op left right hleft hright =>
    have hnode : f (binary op left right) = none := hf _ rfl
    simp [postorder, nodes, hnode, hleft, hright]
  | neg operand hoperand =>
    have hnode : f (neg operand) = none := hf _ rfl
    simp [postorder, nodes, hnode, hoperand]
  | compare op left right hleft hright =>
    have hnode : f (compare op left right) = none := hf _ rfl
    simp [postorder, nodes, hnode, hleft, hright]
  | call name arguments harguments =>
    have hnode : f (call name arguments) = none := hf _ rfl
    simp [postorder, nodes, hnode, filterMap_postorderAll harguments]

end Postorder

/-- The number that a node writes. -/
def asLiteral? [Numeric T] : Expr T → Option T
  | int i => some (Numeric.ofInt32 i)
  | const x => some x
  | _ => none

/-- The variable that a node reads, as written. -/
def asVariable? : Expr T → Option String
  | var name => some name
  | _ => none

/-- The function that a node calls, and the number of arguments. -/
def asCall? : Expr T → Option (String × Nat)
  | call name arguments => some (name, arguments.length)
  | _ => none

/-- The numbers of an expression. -/
def literals [Numeric T] (e : Expr T) : List T :=
  e.nodes.filterMap asLiteral?

/-- The variables of an expression, each as often as it occurs. -/
def variableNames (e : Expr T) : List String :=
  e.nodes.filterMap asVariable?

theorem literals_eq_postorder [Numeric T] (e : Expr T) :
    e.literals = e.postorder.filterMap asLiteral? := by
  refine (filterMap_postorder (fun node hnode => ?_) e).symm
  cases node with
  | int i => cases hnode
  | const x => cases hnode
  | _ => rfl

theorem variableNames_eq_postorder (e : Expr T) :
    e.variableNames = e.postorder.filterMap asVariable? := by
  refine (filterMap_postorder (fun node hnode => ?_) e).symm
  cases node with
  | var name => cases hnode
  | _ => rfl

/-- The calls of an expression. -/
def calls (e : Expr T) : List (String × Nat) :=
  e.nodes.filterMap asCall?

theorem mem_variableNames {e : Expr T} {name : String} :
    name ∈ e.variableNames ↔ var name ∈ e.nodes := by
  rw [variableNames, List.mem_filterMap]
  refine ⟨?_, fun h => ⟨_, h, rfl⟩⟩
  rintro ⟨node, hnode, hname⟩
  cases node with
  | var written =>
    cases hname
    exact hnode
  | _ => cases hname

end Formulary.Expr
