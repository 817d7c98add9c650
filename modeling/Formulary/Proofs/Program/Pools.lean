import Formulary.Proofs.Expr.Nodes
import Formulary.Proofs.Program.Lowering

/-!
# Proofs/Program/Pools — what stands in the pools

The pools of a program are read off the nodes of its expression from left to right: every constant,
and every variable and function at its first occurrence. An expression that does not fit is therefore
`Oversized`, which speaks of the expression alone.
-/

namespace Formulary

variable {T : Type}

/-! ## Pools of an expression -/

/-- A pool with a variable. -/
def withVariable (vars : Array VariableRef) (name : String) : Array VariableRef :=
  Pool.enter (Assembly.isVariable name) ⟨Text.foldName name, name⟩ vars

/-- A pool with a function. -/
def withFunction (pool : Array (FunctionRef T)) (info : FunctionInfo T) : Array (FunctionRef T) :=
  Pool.enter (Assembly.isFunction info) ⟨info.name, info.callable⟩ pool

namespace Expr

/-- The function that a node calls. -/
def asCallee? (functions : FunctionRegistry T) (e : Expr T) : Option (FunctionInfo T) :=
  e.asCall?.bind fun call => functions.get? call.1

/-- The functions that an expression calls, each as often as it is called. -/
def callees (functions : FunctionRegistry T) (e : Expr T) : List (FunctionInfo T) :=
  e.nodes.filterMap (asCallee? functions)

/-- The variables of an expression, each once with its first spelling. -/
def variablePool (e : Expr T) : Array VariableRef :=
  e.variableNames.foldl withVariable #[]

/-- The functions that an expression calls, each once. -/
def functionPool (functions : FunctionRegistry T) (e : Expr T) : Array (FunctionRef T) :=
  (e.callees functions).foldl withFunction #[]

/-- Whether an expression needs a pool, or has a list of arguments, that is too long for an
operand. -/
def Oversized [Numeric T] (functions : FunctionRegistry T) (e : Expr T) : Prop :=
  operandRange < e.literals.length ∨ operandRange < e.variablePool.size ∨
    operandRange < (e.functionPool functions).size ∨ ∃ call ∈ e.calls, maxOperand < call.2

end Expr

namespace Assembly

/-! ## Growing pools -/

/-- Every entry of every pool keeps its place. -/
structure Extends (t s : Assembly T) : Prop where
  constants : Pool.Extends t.constants s.constants
  vars : Pool.Extends t.vars s.vars
  functions : Pool.Extends t.functions s.functions

theorem Extends.within {t s : Assembly T} (h : Extends t s) (ht : t.Within) : s.Within :=
  ⟨Nat.le_trans h.constants.size_le ht.constants_le, Nat.le_trans h.vars.size_le ht.vars_le,
    Nat.le_trans h.functions.size_le ht.functions_le⟩

theorem size_lt_of_within_pushConstant {s : Assembly T} {value : T}
    (h : (s.pushConstant value).Within) : s.constants.size < operandRange := by
  have hsize : (s.constants.push value).size ≤ operandRange := h.constants_le
  rwa [Array.size_push] at hsize

theorem Within.of_push {s : Assembly T} {i : Instruction} {pops : Nat}
    (h : (s.push i pops).Within) : s.Within :=
  ⟨h.constants_le, h.vars_le, h.functions_le⟩

/-- Every call has few enough arguments. -/
def Narrow (nodes : List (Expr T)) : Prop :=
  ∀ e ∈ nodes, ∀ call, e.asCall? = some call → call.2 ≤ maxOperand

theorem Narrow.tail {e : Expr T} {xs : List (Expr T)} (h : Narrow (e :: xs)) : Narrow xs :=
  fun a ha => h a (List.mem_cons_of_mem _ ha)

theorem Narrow.left {xs ys : List (Expr T)} (h : Narrow (xs ++ ys)) : Narrow xs :=
  fun a ha => h a (List.mem_append_left _ ha)

theorem Narrow.right {xs ys : List (Expr T)} (h : Narrow (xs ++ ys)) : Narrow ys :=
  fun a ha => h a (List.mem_append_right _ ha)

variable [Numeric T] {functions : FunctionRegistry T}

/-- An assembly with the entries of some nodes added to its pools. -/
structure Gathers (functions : FunctionRegistry T) (nodes : List (Expr T)) (s t : Assembly T) :
    Prop where
  constants_eq : t.constants = s.constants ++ (nodes.filterMap Expr.asLiteral?).toArray
  vars_eq : t.vars = (nodes.filterMap Expr.asVariable?).foldl withVariable s.vars
  functions_eq :
    t.functions = (nodes.filterMap (Expr.asCallee? functions)).foldl withFunction s.functions

namespace Gathers

theorem nil (s : Assembly T) : Gathers functions [] s s :=
  ⟨by simp, rfl, rfl⟩

theorem append {xs ys : List (Expr T)} {s t u : Assembly T} (h : Gathers functions xs s t)
    (h' : Gathers functions ys t u) : Gathers functions (xs ++ ys) s u := by
  refine ⟨?_, ?_, ?_⟩
  · rw [h'.constants_eq, h.constants_eq, List.filterMap_append, Array.append_assoc]
    simp
  · rw [h'.vars_eq, h.vars_eq, List.filterMap_append, List.foldl_append]
  · rw [h'.functions_eq, h.functions_eq, List.filterMap_append, List.foldl_append]

theorem push {xs : List (Expr T)} {s t : Assembly T} (h : Gathers functions xs s t)
    (i : Instruction) (pops : Nat) : Gathers functions xs s (t.push i pops) :=
  ⟨h.constants_eq, h.vars_eq, h.functions_eq⟩

/-- A node that writes a number. -/
theorem literal {e : Expr T} {value : T} (s : Assembly T) (hliteral : e.asLiteral? = some value)
    (hvariable : e.asVariable? = none) (hcallee : e.asCallee? functions = none) :
    Gathers functions [e] s (s.pushConstant value) := by
  refine ⟨?_, ?_, ?_⟩
  · rw [List.filterMap_cons_some hliteral]
    exact Array.push_eq_append
  · rw [List.filterMap_cons_none hvariable]
    rfl
  · rw [List.filterMap_cons_none hcallee]
    rfl

/-- A node with nothing of its own to gather. -/
theorem cons {e : Expr T} {xs : List (Expr T)} {s t : Assembly T} (h : Gathers functions xs s t)
    (hliteral : e.asLiteral? = none) (hvariable : e.asVariable? = none)
    (hcallee : e.asCallee? functions = none) : Gathers functions (e :: xs) s t := by
  refine ⟨?_, ?_, ?_⟩
  · rw [List.filterMap_cons_none hliteral, h.constants_eq]
  · rw [List.filterMap_cons_none hvariable, h.vars_eq]
  · rw [List.filterMap_cons_none hcallee, h.functions_eq]

/-- A node that calls a function. -/
theorem callee {name : String} {arguments xs : List (Expr T)} {info : FunctionInfo T}
    {s t : Assembly T} (h : Gathers functions xs (s.enterFunction info) t)
    (hget : functions.get? name = some info) :
    Gathers functions (.call name arguments :: xs) s t := by
  refine ⟨h.constants_eq, h.vars_eq, ?_⟩
  have hcallee : Expr.asCallee? functions (.call name arguments) = some info := hget
  rw [List.filterMap_cons_some hcallee]
  exact h.functions_eq

theorem extension {xs : List (Expr T)} {s t : Assembly T} (h : Gathers functions xs s t) :
    Extends t s := by
  refine ⟨?_, ?_, ?_⟩
  · rw [h.constants_eq]
    exact Pool.extends_append _ _
  · rw [h.vars_eq]
    exact Pool.extends_foldl fun _ _ => Pool.extends_enter _ _ _
  · rw [h.functions_eq]
    exact Pool.extends_foldl fun _ _ => Pool.extends_enter _ _ _

end Gathers

theorem gathers_loweredAll {arguments : List (Expr T)}
    (hargs : ∀ e ∈ arguments, ∀ s : Assembly T, Gathers functions e.nodes s (lowered functions s e))
    (s : Assembly T) :
    Gathers functions (Expr.nodesAll arguments) s (loweredAll functions s arguments) := by
  induction arguments generalizing s with
  | nil => exact .nil s
  | cons e rest ih =>
    rw [Expr.nodesAll, loweredAll]
    exact (hargs e List.mem_cons_self s).append
      (ih (fun e he => hargs e (List.mem_cons_of_mem _ he)) _)

/-- **Lowering gathers the nodes of an expression**, from left to right. -/
theorem gathers_lowered (e : Expr T) (s : Assembly T) :
    Gathers functions e.nodes s (lowered functions s e) := by
  induction e using Expr.induct generalizing s with
  | int i =>
    rw [Expr.nodes, lowered]
    exact .literal s rfl rfl rfl
  | const x =>
    rw [Expr.nodes, lowered]
    exact .literal s rfl rfl rfl
  | var name =>
    rw [Expr.nodes, lowered]
    exact ⟨Array.append_empty.symm, rfl, rfl⟩
  | binary op left right hleft hright =>
    rw [Expr.nodes, lowered]
    exact (((hleft s).append (hright _)).push _ _).cons rfl rfl rfl
  | neg operand hoperand =>
    rw [Expr.nodes, lowered]
    exact ((hoperand s).push _ _).cons rfl rfl rfl
  | compare op left right hleft hright =>
    rw [Expr.nodes, lowered]
    exact (((hleft s).append (hright _)).push _ _).cons rfl rfl rfl
  | call name arguments harguments =>
    rw [Expr.nodes, lowered]
    split
    · next info hget => exact ((gathers_loweredAll harguments _).callee hget).push _ _
    · next hget => exact (gathers_loweredAll harguments s).cons rfl rfl hget

/-! ## What does not fit -/

theorem extends_lowered (functions : FunctionRegistry T) (s : Assembly T) (e : Expr T) :
    Extends (lowered functions s e) s :=
  (gathers_lowered e s).extension

theorem extends_loweredAll (functions : FunctionRegistry T) (s : Assembly T)
    (arguments : List (Expr T)) : Extends (loweredAll functions s arguments) s :=
  (gathers_loweredAll (fun e _ s => gathers_lowered e s) s).extension

theorem fitsAll_of_within {arguments : List (Expr T)}
    (hargs : ∀ e ∈ arguments, ∀ s : Assembly T, Narrow e.nodes → (lowered functions s e).Within →
      Fits functions s e) {s : Assembly T} (hnarrow : Narrow (Expr.nodesAll arguments))
    (h : (loweredAll functions s arguments).Within) : FitsAll functions s arguments := by
  induction arguments generalizing s with
  | nil => trivial
  | cons e rest ih =>
    rw [Expr.nodesAll] at hnarrow
    rw [loweredAll] at h
    rw [FitsAll]
    refine ⟨hargs e List.mem_cons_self s hnarrow.left
      ((extends_loweredAll functions _ rest).within h), ?_⟩
    exact ih (fun e he => hargs e (List.mem_cons_of_mem _ he)) hnarrow.right h

/-- **Bounded pools and short lists of arguments are all that has to fit.** -/
theorem fits_of_within (e : Expr T) {s : Assembly T} (hnarrow : Narrow e.nodes)
    (h : (lowered functions s e).Within) : Fits functions s e := by
  induction e using Expr.induct generalizing s with
  | int i =>
    rw [lowered] at h
    rw [Fits]
    exact size_lt_of_within_pushConstant h
  | const x =>
    rw [lowered] at h
    rw [Fits]
    exact size_lt_of_within_pushConstant h
  | var name =>
    rw [lowered] at h
    rw [Fits]
    exact h.vars_le
  | binary op left right hleft hright =>
    rw [lowered] at h
    rw [Expr.nodes] at hnarrow
    rw [Fits]
    have hboth := h.of_push
    exact ⟨hleft hnarrow.tail.left ((extends_lowered functions _ right).within hboth),
      hright hnarrow.tail.right hboth⟩
  | neg operand hoperand =>
    rw [lowered] at h
    rw [Expr.nodes] at hnarrow
    rw [Fits]
    exact hoperand hnarrow.tail h.of_push
  | compare op left right hleft hright =>
    rw [lowered] at h
    rw [Expr.nodes] at hnarrow
    rw [Fits]
    have hboth := h.of_push
    exact ⟨hleft hnarrow.tail.left ((extends_lowered functions _ right).within hboth),
      hright hnarrow.tail.right hboth⟩
  | call name arguments harguments =>
    rw [lowered] at h
    rw [Expr.nodes] at hnarrow
    rw [Fits]
    split
    · next info hget =>
      rw [hget] at h
      have hentered := (extends_loweredAll functions _ arguments).within h.of_push
      exact ⟨hentered.functions_le,
        fitsAll_of_within (fun e he s => harguments e he) hnarrow.tail h.of_push,
        hnarrow _ List.mem_cons_self _ rfl⟩
    · next hget =>
      rw [hget] at h
      exact fitsAll_of_within (fun e he s => harguments e he) hnarrow.tail h

/-- **An expression that does not fit is oversized.** -/
theorem oversized_of_not_fits {e : Expr T} (h : ¬Fits functions .empty e) :
    e.Oversized functions := by
  refine Classical.byContradiction fun hsmall => h ?_
  simp only [Expr.Oversized, not_or, not_exists, not_and, Nat.not_lt] at hsmall
  obtain ⟨hliterals, hvars, hcallees, hcalls⟩ := hsmall
  have hgathers : Gathers functions e.nodes .empty (lowered functions .empty e) :=
    gathers_lowered e .empty
  refine fits_of_within e ?_ ⟨?_, ?_, ?_⟩
  · intro node hnode call hcall
    exact hcalls call (List.mem_filterMap.2 ⟨node, hnode, hcall⟩)
  · rw [hgathers.constants_eq]
    simpa [empty, Expr.literals] using hliterals
  · rw [hgathers.vars_eq]
    exact hvars
  · rw [hgathers.functions_eq]
    exact hcallees

end Assembly

end Formulary
