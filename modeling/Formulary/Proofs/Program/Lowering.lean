import Formulary.Program.Assembly
import Formulary.Proofs.Evaluation.Walk
import Formulary.Proofs.Program.Pool

/-!
# Proofs/Program/Lowering — the program that lowering yields

`lowered` is the assembly after an expression, without the checks on the way. Lowering ends in one of
three ways (`outcome_lower`): with that assembly, with the error that validation reports, or because
the expression does not fit (`Fits`), when a pool or a list of arguments is too long for an operand.
-/

namespace Formulary.Assembly

variable {T : Type}

/-! ## Entries -/

/-- Whether an entry is the one of a variable. -/
def isVariable (name : String) (ref : VariableRef) : Bool :=
  ref.folded == Text.foldName name

/-- Whether an entry is the one of a function. -/
def isFunction (info : FunctionInfo T) (ref : FunctionRef T) : Bool :=
  ref.name == info.name

/-- The assembly with one more constant. -/
def enterConstant (s : Assembly T) (value : T) : Assembly T :=
  { s with constants := s.constants.push value }

/-- The assembly with a variable in its pool. -/
def enterVariable (s : Assembly T) (name : String) : Assembly T :=
  { s with vars := Pool.enter (isVariable name) ⟨Text.foldName name, name⟩ s.vars }

/-- The assembly with a function in its pool. -/
def enterFunction (s : Assembly T) (info : FunctionInfo T) : Assembly T :=
  { s with functions := Pool.enter (isFunction info) ⟨info.name, info.callable⟩ s.functions }

/-- The place of a variable. -/
def variableAt (s : Assembly T) (name : String) : Nat :=
  Pool.indexOf (isVariable name) s.vars

/-- The place of a function. -/
def functionAt (s : Assembly T) (info : FunctionInfo T) : Nat :=
  Pool.indexOf (isFunction info) s.functions

/-- The assembly with an instruction that pushes a constant. -/
def pushConstant (s : Assembly T) (value : T) : Assembly T :=
  (s.enterConstant value).push (.pack .pushConst s.constants.size 0) 0

/-! ## Steps that may fail -/

/-- How a step ends, given what validation says and whether the operands are small enough. -/
inductive Outcome (check : Except FormulaError Unit) (fits : Prop) (t : Assembly T) :
    Except FormulaError (Unit × Assembly T) → Prop where
  | done (hcheck : check = .ok ()) (hfits : fits) : Outcome check fits t (.ok ((), t))
  | refused (error : FormulaError) (hcheck : check = .error error) :
    Outcome check fits t (.error error)
  | tooLarge (hfits : ¬fits) : Outcome check fits t (.error (.programTooLarge maxOperand))

/-- **One step after the other**: the first failure decides. -/
theorem Outcome.seq {check check' : Except FormulaError Unit} {fits fits' : Prop}
    {s t t' : Assembly T} {m m' : Assemble T Unit} (h : Outcome check fits t (m.run s))
    (h' : check = .ok () → fits → Outcome check' fits' t' (m'.run t)) :
    Outcome (do check; check') (fits ∧ fits') t' ((do m; m' : Assemble T Unit).run s) := by
  rw [StateT.run_bind]
  generalize m.run s = r at h
  cases h with
  | done hcheck hfits =>
    have hnext := h' hcheck hfits
    change Outcome _ _ _ (m'.run t)
    generalize m'.run t = r' at hnext
    cases hnext with
    | done hcheck' hfits' => exact .done (by rw [hcheck, hcheck']; rfl) ⟨hfits, hfits'⟩
    | refused error hcheck' => exact .refused error (by rw [hcheck, hcheck']; rfl)
    | tooLarge hfits' => exact .tooLarge fun h => hfits' h.2
  | refused error hcheck => exact .refused error (by rw [hcheck]; rfl)
  | tooLarge hfits => exact .tooLarge fun h => hfits h.1

theorem operand_ok {n : Nat} (h : n ≤ maxOperand) : operand n = .ok n :=
  if_pos h

theorem operand_error {n : Nat} (h : ¬n ≤ maxOperand) :
    operand n = .error (.programTooLarge maxOperand) :=
  if_neg h

/-- An instruction at the end changes nothing about how a step ends. -/
theorem Outcome.emit {check : Except FormulaError Unit} {fits : Prop} {s t : Assembly T}
    {m : Assemble T Unit} (h : Outcome check fits t (m.run s)) (i : Instruction) (pops : Nat) :
    Outcome check fits (t.push i pops)
      ((do m; Assembly.emit i pops : Assemble T Unit).run s) := by
  rw [StateT.run_bind]
  generalize m.run s = r at h
  cases h with
  | done hcheck hfits => exact .done hcheck hfits
  | refused error hcheck => exact .refused error hcheck
  | tooLarge hfits => exact .tooLarge hfits

/-- The call behind the instructions of its arguments, whose number has to be an operand. -/
theorem Outcome.emitCall {check : Except FormulaError Unit} {fits : Prop} {s t : Assembly T}
    {m : Assemble T Unit} (h : Outcome check fits t (m.run s)) (index n : Nat) :
    Outcome check (fits ∧ n ≤ maxOperand) (t.push (.pack .call index n) n)
      ((do
        m
        let count ← operand n
        Assembly.emit (.pack .call index count) count : Assemble T Unit).run s) := by
  rw [StateT.run_bind]
  generalize m.run s = r at h
  cases h with
  | done hcheck hfits =>
    by_cases hn : n ≤ maxOperand
    · rw [operand_ok hn]
      exact .done hcheck ⟨hfits, hn⟩
    · rw [operand_error hn]
      exact .tooLarge fun h => hn h.2
  | refused error hcheck => exact .refused error hcheck
  | tooLarge hfits => exact .tooLarge fun h => hfits h.1

/-- The next place in a pool is an operand if the pool has room. -/
theorem succ_le_operandRange {n : Nat} : n + 1 ≤ operandRange ↔ n ≤ maxOperand := by
  simp only [operandRange, maxOperand]
  omega

/-- A constant gets the next place in its pool. -/
theorem outcome_emitConstant (s : Assembly T) (value : T) :
    Outcome (.ok ()) (s.constants.size < operandRange) (s.pushConstant value)
      ((emitConstant value).run s) := by
  by_cases h : s.constants.size ≤ maxOperand
  · have hrun : (emitConstant value).run s = .ok ((), s.pushConstant value) := by
      simp only [emitConstant, StateT.run_bind, StateT.run_get, pure_bind, operand_ok h]
      rfl
    rw [hrun]
    exact .done rfl (succ_le_operandRange.2 h)
  · have hrun : (emitConstant value).run s = .error (.programTooLarge maxOperand) := by
      simp only [emitConstant, StateT.run_bind, StateT.run_get, pure_bind, operand_error h]
      rfl
    rw [hrun]
    exact .tooLarge fun hlt => h (succ_le_operandRange.1 hlt)

/-- The place of an entry in one of the pools, which gets the next one if it is not there. -/
def placeIn {α : Type} (pool : Assembly T → Array α) (put : Assembly T → Array α → Assembly T)
    (p : α → Bool) (x : α) : Assemble T Nat := do
  match (pool (← get)).findIdx? p with
  | some index => pure index
  | none =>
    let index ← operand (pool (← get)).size
    modify fun s => put s ((pool s).push x)
    pure index

/-- An entry is looked up in its pool, or entered if the next place is an operand. -/
theorem run_placeIn {α : Type} {pool : Assembly T → Array α}
    {put : Assembly T → Array α → Assembly T} {p : α → Bool} {x : α} {s : Assembly T}
    (hput : put s (pool s) = s) (h : (pool s).size ≤ operandRange) :
    (placeIn pool put p x).run s =
      if (Pool.enter p x (pool s)).size ≤ operandRange then
        .ok (Pool.indexOf p (pool s), put s (Pool.enter p x (pool s)))
      else .error (.programTooLarge maxOperand) := by
  simp only [placeIn, StateT.run_bind, StateT.run_get, pure_bind]
  cases hfind : (pool s).findIdx? p with
  | some i =>
    obtain ⟨hindex, henter⟩ := Pool.enter_of_some x hfind
    rw [hindex, henter, if_pos h, hput]
    rfl
  | none =>
    obtain ⟨hindex, henter⟩ := Pool.enter_of_none x hfind
    rw [hindex, henter, Array.size_push]
    by_cases hsize : (pool s).size ≤ maxOperand
    · rw [if_pos (succ_le_operandRange.2 hsize)]
      simp only [StateT.run_bind, StateT.run_get, pure_bind, operand_ok hsize]
      rfl
    · rw [if_neg fun hle => hsize (succ_le_operandRange.1 hle)]
      simp only [StateT.run_bind, StateT.run_get, pure_bind, operand_error hsize]
      rfl

theorem variableIndex_eq (name : String) :
    (variableIndex name : Assemble T Nat) =
      placeIn vars (fun s vars => { s with vars }) (isVariable name)
        ⟨Text.foldName name, name⟩ :=
  rfl

theorem functionIndex_eq (info : FunctionInfo T) :
    functionIndex info =
      placeIn functions (fun s functions => { s with functions }) (isFunction info)
        ⟨info.name, info.callable⟩ :=
  rfl

theorem run_variableIndex {s : Assembly T} (name : String) (h : s.vars.size ≤ operandRange) :
    (variableIndex name).run s =
      if (s.enterVariable name).vars.size ≤ operandRange then
        .ok (s.variableAt name, s.enterVariable name)
      else .error (.programTooLarge maxOperand) := by
  rw [variableIndex_eq]
  exact run_placeIn rfl h

theorem run_functionIndex {s : Assembly T} (info : FunctionInfo T)
    (h : s.functions.size ≤ operandRange) :
    (functionIndex info).run s =
      if (s.enterFunction info).functions.size ≤ operandRange then
        .ok (s.functionAt info, s.enterFunction info)
      else .error (.programTooLarge maxOperand) := by
  rw [functionIndex_eq]
  exact run_placeIn rfl h

/-! ## Pools within bounds -/

/-- No pool is longer than an operand can reach. -/
structure Within (s : Assembly T) : Prop where
  constants_le : s.constants.size ≤ operandRange
  vars_le : s.vars.size ≤ operandRange
  functions_le : s.functions.size ≤ operandRange

theorem Within.push {s : Assembly T} (h : s.Within) (i : Instruction) (pops : Nat) :
    (s.push i pops).Within :=
  ⟨h.constants_le, h.vars_le, h.functions_le⟩

theorem Within.pushConstant {s : Assembly T} (h : s.Within) (value : T)
    (hsize : s.constants.size < operandRange) : (s.pushConstant value).Within := by
  refine ⟨?_, h.vars_le, h.functions_le⟩
  change (s.constants.push value).size ≤ operandRange
  rw [Array.size_push]
  exact hsize

/-! ## The assembly after an expression -/

variable [Numeric T]

mutual

/-- The assembly after an expression. -/
def lowered (functions : FunctionRegistry T) (s : Assembly T) : Expr T → Assembly T
  | .int i => s.pushConstant (Numeric.ofInt32 i)
  | .const x => s.pushConstant x
  | .var name => (s.enterVariable name).push (.pack .loadVar (s.variableAt name) 0) 0
  | .binary op left right =>
    (lowered functions (lowered functions s left) right).push (.pack (.binary op) 0 0) 2
  | .neg operand => (lowered functions s operand).push (.pack .neg 0 0) 1
  | .compare op left right =>
    (lowered functions (lowered functions s left) right).push (.pack (.compare op) 0 0) 2
  | .call name arguments =>
    match functions.get? name with
    | some info =>
      (loweredAll functions (s.enterFunction info) arguments).push
        (.pack .call (s.functionAt info) arguments.length) arguments.length
    | none => loweredAll functions s arguments

/-- The assembly after expressions, one after the other. -/
def loweredAll (functions : FunctionRegistry T) (s : Assembly T) : List (Expr T) → Assembly T
  | [] => s
  | e :: rest => loweredAll functions (lowered functions s e) rest

end

/-! ## Operands in range -/

mutual

/-- Whether every operand of the instructions of an expression is small enough. -/
def Fits (functions : FunctionRegistry T) (s : Assembly T) : Expr T → Prop
  | .int _ | .const _ => s.constants.size < operandRange
  | .var name => (s.enterVariable name).vars.size ≤ operandRange
  | .binary _ left right | .compare _ left right =>
    Fits functions s left ∧ Fits functions (lowered functions s left) right
  | .neg operand => Fits functions s operand
  | .call name arguments =>
    match functions.get? name with
    | some info =>
      (s.enterFunction info).functions.size ≤ operandRange ∧
        FitsAll functions (s.enterFunction info) arguments ∧ arguments.length ≤ maxOperand
    | none => FitsAll functions s arguments

/-- Whether the operands of the instructions of expressions are small enough. -/
def FitsAll (functions : FunctionRegistry T) (s : Assembly T) : List (Expr T) → Prop
  | [] => True
  | e :: rest => Fits functions s e ∧ FitsAll functions (lowered functions s e) rest

end

/-! ## Lowering -/

theorem withinAll_lowered {functions : FunctionRegistry T} {arguments : List (Expr T)}
    (hargs : ∀ e ∈ arguments, ∀ s : Assembly T, s.Within → Fits functions s e →
      (lowered functions s e).Within) {s : Assembly T} (hs : s.Within)
    (hfits : FitsAll functions s arguments) : (loweredAll functions s arguments).Within := by
  induction arguments generalizing s with
  | nil => exact hs
  | cons e rest ih =>
    rw [FitsAll] at hfits
    rw [loweredAll]
    exact ih (fun e he => hargs e (List.mem_cons_of_mem _ he))
      (hargs e List.mem_cons_self s hs hfits.1) hfits.2

/-- **Pools stay within their bounds** when the operands are small enough. -/
theorem within_lowered {functions : FunctionRegistry T} (e : Expr T) {s : Assembly T}
    (hs : s.Within) (hfits : Fits functions s e) : (lowered functions s e).Within := by
  induction e using Expr.induct generalizing s with
  | int i =>
    rw [Fits] at hfits
    exact hs.pushConstant _ hfits
  | const x =>
    rw [Fits] at hfits
    exact hs.pushConstant _ hfits
  | var name =>
    rw [Fits] at hfits
    exact ⟨hs.constants_le, hfits, hs.functions_le⟩
  | binary op left right hleft hright =>
    rw [Fits] at hfits
    exact (hright (hleft hs hfits.1) hfits.2).push _ _
  | neg operand hoperand =>
    rw [Fits] at hfits
    exact (hoperand hs hfits).push _ _
  | compare op left right hleft hright =>
    rw [Fits] at hfits
    exact (hright (hleft hs hfits.1) hfits.2).push _ _
  | call name arguments harguments =>
    rw [Fits] at hfits
    rw [lowered]
    split
    · next info hget =>
      rw [hget] at hfits
      have hentered : (s.enterFunction info).Within := ⟨hs.constants_le, hs.vars_le, hfits.1⟩
      exact (withinAll_lowered (fun e he s => harguments e he) hentered hfits.2.1).push _ _
    · next hget =>
      rw [hget] at hfits
      exact withinAll_lowered (fun e he s => harguments e he) hs hfits

theorem outcome_lowerAll {functions : FunctionRegistry T} {arguments : List (Expr T)}
    (hargs : ∀ e ∈ arguments, ∀ s : Assembly T, s.Within →
      Outcome (e.validate functions) (Fits functions s e) (lowered functions s e)
        ((lower functions e).run s)) {s : Assembly T} (hs : s.Within) :
    Outcome (Expr.validateAll functions arguments) (FitsAll functions s arguments)
      (loweredAll functions s arguments) ((lowerAll functions arguments).run s) := by
  induction arguments generalizing s with
  | nil => exact .done rfl trivial
  | cons e rest ih =>
    rw [Expr.validateAll, FitsAll, loweredAll, lowerAll]
    refine (hargs e List.mem_cons_self s hs).seq fun _ hfits => ?_
    exact ih (fun e he => hargs e (List.mem_cons_of_mem _ he)) (within_lowered e hs hfits)

/-- A call of a function that is resolved. -/
theorem outcome_call {functions : FunctionRegistry T} {arguments : List (Expr T)} {s : Assembly T}
    (hs : s.Within) (info : FunctionInfo T)
    (hargs : (s.enterFunction info).Within →
      Outcome (Expr.validateAll functions arguments)
        (FitsAll functions (s.enterFunction info) arguments)
        (loweredAll functions (s.enterFunction info) arguments)
        ((lowerAll functions arguments).run (s.enterFunction info))) :
    Outcome (Expr.validateAll functions arguments)
      ((s.enterFunction info).functions.size ≤ operandRange ∧
        FitsAll functions (s.enterFunction info) arguments ∧ arguments.length ≤ maxOperand)
      ((loweredAll functions (s.enterFunction info) arguments).push
        (.pack .call (s.functionAt info) arguments.length) arguments.length)
      ((do
        let index ← functionIndex info
        lowerAll functions arguments
        let count ← operand arguments.length
        emit (.pack .call index count) count : Assemble T Unit).run s) := by
  rw [StateT.run_bind, run_functionIndex info hs.functions_le]
  split
  · next hsize =>
    rw [and_iff_right hsize]
    exact (hargs ⟨hs.constants_le, hs.vars_le, hsize⟩).emitCall (s.functionAt info) arguments.length
  · next hsize => exact .tooLarge fun h => hsize h.1

/-- **How lowering ends**: in the assembly after the expression, in the error of validation, or
because an operand is too large. -/
theorem outcome_lower (functions : FunctionRegistry T) (e : Expr T) {s : Assembly T}
    (hs : s.Within) : Outcome (e.validate functions) (Fits functions s e) (lowered functions s e)
      ((lower functions e).run s) := by
  induction e using Expr.induct generalizing s with
  | int i =>
    rw [Expr.validate, Fits, lowered, lower]
    exact outcome_emitConstant s _
  | const x =>
    rw [Expr.validate, Fits, lowered, lower]
    exact outcome_emitConstant s x
  | var name =>
    rw [Expr.validate, Fits, lowered, lower, StateT.run_bind, run_variableIndex name hs.vars_le]
    split
    · next hsize => exact .done rfl hsize
    · next hsize => exact .tooLarge hsize
  | binary op left right hleft hright =>
    rw [Expr.validate, Fits, lowered, lower]
    exact (hleft hs).seq fun _ hfits => (hright (within_lowered left hs hfits)).emit _ _
  | neg operand hoperand =>
    rw [Expr.validate, Fits, lowered, lower]
    exact (hoperand hs).emit _ _
  | compare op left right hleft hright =>
    rw [Expr.validate, Fits, lowered, lower]
    exact (hleft hs).seq fun _ hfits => (hright (within_lowered left hs hfits)).emit _ _
  | call name arguments harguments =>
    rw [Expr.validate, Fits, lowered, lower]
    cases hresolve : functions.resolve name arguments.length with
    | error error => exact .refused error rfl
    | ok info =>
      rw [(FunctionRegistry.resolve_eq_ok hresolve).1]
      exact outcome_call hs info fun hentered =>
        outcome_lowerAll (fun e he s => harguments e he) hentered

end Formulary.Assembly
