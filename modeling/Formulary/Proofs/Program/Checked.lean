import Formulary.Proofs.Program.Lowering

/-!
# Proofs/Program/Checked — lowering with its bounds checked

Lowering subtracts from the height of the stack and packs numbers into operands without looking at
them. `lowerWith` leaves the emission of an instruction open: with `emitPacked` it is lowering, and
`emitChecked` refuses an operand out of range or more values than the stack holds. Both end in the
same way (`run_lowerWith_emitChecked`), so no check ever fails.
-/

namespace Formulary

namespace Assembly

variable {T : Type}

/-! ## Emitting -/

/-- How an instruction is emitted: its operation, its two operands and how many values it takes off
the stack. -/
abbrev Emitter (T : Type) : Type :=
  (op : OpCode) → (a b pops : Nat) → Assemble T Unit

/-- Emits an instruction without looking at its operands or at the stack. -/
def emitPacked : Emitter T := fun op a b pops =>
  emit (.pack op a b) pops

/-- Emits an instruction if its operands are in range and the stack holds the values it takes. -/
def emitChecked : Emitter T := fun op a b pops => do
  if a ≤ maxOperand ∧ b ≤ maxOperand ∧ pops ≤ (← get).height then emit (.pack op a b) pops
  else throw .stackUnderflow

theorem run_emitChecked {op : OpCode} {a b pops : Nat} {s : Assembly T} (ha : a ≤ maxOperand)
    (hb : b ≤ maxOperand) (hpops : pops ≤ s.height) :
    (emitChecked op a b pops).run s = (emit (.pack op a b) pops).run s := by
  simp only [emitChecked, StateT.run_bind, StateT.run_get, pure_bind, ha, hb, hpops, and_self,
    if_true]

/-- What is done after a step can be exchanged for what ends alike where the step succeeds. -/
theorem Outcome.run_congr {check : Except FormulaError Unit} {fits : Prop} {s t : Assembly T}
    {m m' n n' : Assemble T Unit} (h : Outcome check fits t (m.run s)) (hm : m'.run s = m.run s)
    (hn : check = .ok () → fits → n'.run t = n.run t) :
    (do m'; n' : Assemble T Unit).run s = (do m; n : Assemble T Unit).run s := by
  rw [StateT.run_bind, StateT.run_bind, hm]
  generalize m.run s = r at h
  cases h with
  | done hcheck hfits => exact hn hcheck hfits
  | refused error hcheck => rfl
  | tooLarge hfits => rfl

theorem height_push (s : Assembly T) (i : Instruction) (pops : Nat) :
    (s.push i pops).height = s.height - pops + 1 := rfl

/-- Emits an instruction that pushes a constant. -/
def emitConstantWith (emit : Emitter T) (value : T) : Assemble T Unit := do
  let index ← operand (← get).constants.size
  modify fun s => { s with constants := s.constants.push value }
  emit .pushConst index 0 0

theorem run_emitConstantWith_emitChecked (s : Assembly T) (value : T) :
    (emitConstantWith emitChecked value).run s = (emitConstant value).run s := by
  simp only [emitConstantWith, emitConstant, StateT.run_bind, StateT.run_get, pure_bind]
  by_cases h : s.constants.size ≤ maxOperand
  · rw [operand_ok h]
    exact run_emitChecked h (Nat.zero_le _) (Nat.zero_le _)
  · rw [operand_error h]
    rfl

variable [Numeric T]

mutual

/-- Emits the instructions of an expression in a given way. -/
def lowerWith (emit : Emitter T) (functions : FunctionRegistry T) : Expr T → Assemble T Unit
  | .int i => emitConstantWith emit (Numeric.ofInt32 i)
  | .const x => emitConstantWith emit x
  | .var name => do
    let index ← variableIndex name
    emit .loadVar index 0 0
  | .binary op left right => do
    lowerWith emit functions left
    lowerWith emit functions right
    emit (.binary op) 0 0 2
  | .neg operand => do
    lowerWith emit functions operand
    emit .neg 0 0 1
  | .compare op left right => do
    lowerWith emit functions left
    lowerWith emit functions right
    emit (.compare op) 0 0 2
  | .call name arguments => do
    let info ← functions.resolve name arguments.length
    let index ← functionIndex info
    lowerAllWith emit functions arguments
    let count ← operand arguments.length
    emit .call index count count

/-- Emits the instructions of expressions in a given way, one after the other. -/
def lowerAllWith (emit : Emitter T) (functions : FunctionRegistry T) :
    List (Expr T) → Assemble T Unit
  | [] => pure ()
  | e :: rest => do
    lowerWith emit functions e
    lowerAllWith emit functions rest

end

/-! ## Lowering is the unchecked way -/

theorem lowerAllWith_emitPacked {functions : FunctionRegistry T} {arguments : List (Expr T)}
    (hargs : ∀ e ∈ arguments, lowerWith emitPacked functions e = lower functions e) :
    lowerAllWith emitPacked functions arguments = lowerAll functions arguments := by
  induction arguments with
  | nil => rfl
  | cons e rest ih =>
    rw [lowerAllWith, lowerAll, hargs e List.mem_cons_self,
      ih fun e he => hargs e (List.mem_cons_of_mem _ he)]

/-- **Lowering is `lowerWith` without checks.** -/
theorem lowerWith_emitPacked (functions : FunctionRegistry T) (e : Expr T) :
    lowerWith emitPacked functions e = lower functions e := by
  induction e using Expr.induct with
  | int i => rfl
  | const x => rfl
  | var name => rfl
  | binary op left right hleft hright =>
    rw [lowerWith, lower, hleft, hright]
    rfl
  | neg operand hoperand =>
    rw [lowerWith, lower, hoperand]
    rfl
  | compare op left right hleft hright =>
    rw [lowerWith, lower, hleft, hright]
    rfl
  | call name arguments harguments =>
    rw [lowerWith, lower, lowerAllWith_emitPacked harguments]
    rfl

/-! ## The height after an expression -/

theorem height_loweredAll {functions : FunctionRegistry T} {arguments : List (Expr T)}
    (hargs : ∀ e ∈ arguments, ∀ s : Assembly T, e.validate functions = .ok () →
      (lowered functions s e).height = s.height + 1) {s : Assembly T}
    (hvalid : Expr.validateAll functions arguments = .ok ()) :
    (loweredAll functions s arguments).height = s.height + arguments.length := by
  induction arguments generalizing s with
  | nil => rfl
  | cons e rest ih =>
    rw [Expr.validateAll] at hvalid
    obtain ⟨_, hhead, hrest⟩ := bind_eq_ok hvalid
    rw [loweredAll, ih (fun e he => hargs e (List.mem_cons_of_mem _ he)) hrest,
      hargs e List.mem_cons_self s hhead, List.length_cons]
    omega

/-- **The instructions of an expression leave one more value on the stack.** -/
theorem height_lowered {functions : FunctionRegistry T} {e : Expr T} {s : Assembly T}
    (hvalid : e.validate functions = .ok ()) :
    (lowered functions s e).height = s.height + 1 := by
  induction e using Expr.induct generalizing s with
  | int i => rfl
  | const x => rfl
  | var name => rfl
  | binary op left right hleft hright =>
    rw [Expr.validate] at hvalid
    obtain ⟨_, hvalidLeft, hvalidRight⟩ := bind_eq_ok hvalid
    rw [lowered, height_push, hright hvalidRight, hleft hvalidLeft]
    rfl
  | neg operand hoperand =>
    rw [Expr.validate] at hvalid
    rw [lowered, height_push, hoperand hvalid]
    rfl
  | compare op left right hleft hright =>
    rw [Expr.validate] at hvalid
    obtain ⟨_, hvalidLeft, hvalidRight⟩ := bind_eq_ok hvalid
    rw [lowered, height_push, hright hvalidRight, hleft hvalidLeft]
    rfl
  | call name arguments harguments =>
    rw [Expr.validate] at hvalid
    obtain ⟨info, hresolve, hvalidAll⟩ := bind_eq_ok hvalid
    rw [lowered, (FunctionRegistry.resolve_eq_ok hresolve).1]
    have hall := height_loweredAll (s := s.enterFunction info)
      (fun e he s => harguments e he) hvalidAll
    have hentered : (s.enterFunction info).height = s.height := rfl
    rw [height_push, hall, hentered]
    omega

/-! ## No check fails -/

theorem run_lowerAllWith_emitChecked {functions : FunctionRegistry T} {arguments : List (Expr T)}
    (hargs : ∀ e ∈ arguments, ∀ s : Assembly T, s.Within →
      (lowerWith emitChecked functions e).run s = (lower functions e).run s) {s : Assembly T}
    (hs : s.Within) :
    (lowerAllWith emitChecked functions arguments).run s = (lowerAll functions arguments).run s := by
  induction arguments generalizing s with
  | nil => rfl
  | cons e rest ih =>
    rw [lowerAllWith, lowerAll]
    refine (outcome_lower functions e hs).run_congr (hargs e List.mem_cons_self s hs)
      fun _ hfits => ?_
    exact ih (fun e he => hargs e (List.mem_cons_of_mem _ he)) (within_lowered e hs hfits)

/-- An operator finds its two operands on the stack. -/
theorem run_operator_emitChecked {functions : FunctionRegistry T} {left right : Expr T}
    (hleft : ∀ s : Assembly T, s.Within →
      (lowerWith emitChecked functions left).run s = (lower functions left).run s)
    (hright : ∀ s : Assembly T, s.Within →
      (lowerWith emitChecked functions right).run s = (lower functions right).run s)
    {s : Assembly T} (hs : s.Within) (op : OpCode) :
    (do
      lowerWith emitChecked functions left
      lowerWith emitChecked functions right
      emitChecked op 0 0 2 : Assemble T Unit).run s =
    (do
      lower functions left
      lower functions right
      emit (.pack op 0 0) 2 : Assemble T Unit).run s := by
  refine (outcome_lower functions left hs).run_congr (hleft s hs) fun hvalidLeft hfitsLeft => ?_
  have ht : (lowered functions s left).Within := within_lowered left hs hfitsLeft
  refine (outcome_lower functions right ht).run_congr (hright _ ht) fun hvalidRight _ => ?_
  refine run_emitChecked (Nat.zero_le _) (Nat.zero_le _) ?_
  rw [height_lowered hvalidRight, height_lowered hvalidLeft]
  omega

/-- A call finds its arguments on the stack. -/
theorem run_call_emitChecked {functions : FunctionRegistry T} {arguments : List (Expr T)}
    (hargs : ∀ s : Assembly T, s.Within →
      (lowerAllWith emitChecked functions arguments).run s = (lowerAll functions arguments).run s)
    {s : Assembly T} (hs : s.Within) (info : FunctionInfo T) :
    (do
      let index ← functionIndex info
      lowerAllWith emitChecked functions arguments
      let count ← operand arguments.length
      emitChecked .call index count count : Assemble T Unit).run s =
    (do
      let index ← functionIndex info
      lowerAll functions arguments
      let count ← operand arguments.length
      emit (.pack .call index count) count : Assemble T Unit).run s := by
  rw [StateT.run_bind, StateT.run_bind, run_functionIndex info hs.functions_le]
  split
  · next hsize =>
    have hentered : (s.enterFunction info).Within := ⟨hs.constants_le, hs.vars_le, hsize⟩
    have hlt : s.functionAt info < (s.enterFunction info).functions.size :=
      Pool.indexOf_lt_size _ _ _
    have houtcome : Outcome (Expr.validateAll functions arguments) _ _ _ :=
      outcome_lowerAll (fun e _ s => outcome_lower functions e) hentered
    refine houtcome.run_congr (hargs _ hentered) fun hvalid _ => ?_
    rw [StateT.run_bind, StateT.run_bind]
    by_cases hcount : arguments.length ≤ maxOperand
    · rw [operand_ok hcount]
      refine run_emitChecked (succ_le_operandRange.1 (Nat.le_trans hlt hsize)) hcount ?_
      rw [height_loweredAll (fun e _ s => height_lowered) hvalid]
      omega
    · rw [operand_error hcount]
      rfl
  · rfl

/-- **Checking changes nothing**: whatever the expression, every operand is in range and every
instruction finds the values that it takes off the stack. -/
theorem run_lowerWith_emitChecked (functions : FunctionRegistry T) (e : Expr T) {s : Assembly T}
    (hs : s.Within) :
    (lowerWith emitChecked functions e).run s = (lower functions e).run s := by
  induction e using Expr.induct generalizing s with
  | int i => exact run_emitConstantWith_emitChecked s _
  | const x => exact run_emitConstantWith_emitChecked s x
  | var name =>
    rw [lowerWith, lower, StateT.run_bind, StateT.run_bind, run_variableIndex name hs.vars_le]
    split
    · next hsize =>
      have hlt : s.variableAt name < (s.enterVariable name).vars.size := Pool.indexOf_lt_size _ _ _
      exact run_emitChecked (succ_le_operandRange.1 (Nat.le_trans hlt hsize)) (Nat.zero_le _)
        (Nat.zero_le _)
    · rfl
  | binary op left right hleft hright =>
    rw [lowerWith, lower]
    exact run_operator_emitChecked (fun s => hleft) (fun s => hright) hs _
  | neg operand hoperand =>
    rw [lowerWith, lower]
    refine (outcome_lower functions operand hs).run_congr (hoperand hs) fun hvalid _ => ?_
    refine run_emitChecked (Nat.zero_le _) (Nat.zero_le _) ?_
    rw [height_lowered hvalid]
    omega
  | compare op left right hleft hright =>
    rw [lowerWith, lower]
    exact run_operator_emitChecked (fun s => hleft) (fun s => hright) hs _
  | call name arguments harguments =>
    rw [lowerWith, lower]
    cases hresolve : functions.resolve name arguments.length with
    | error error => rfl
    | ok info =>
      exact run_call_emitChecked
        (fun s => run_lowerAllWith_emitChecked fun e he s => harguments e he) hs info

end Assembly

namespace Program

variable {T : Type} [Numeric T]

/-- The program of an expression, emitted in a given way. -/
def compileWith (emit : Assembly.Emitter T) (functions : FunctionRegistry T) (e : Expr T) :
    Except FormulaError (Program T) := do
  e.checkDepth
  let (_, s) ← (Assembly.lowerWith emit functions e).run .empty
  pure s.toProgram

theorem compileWith_emitPacked (functions : FunctionRegistry T) (e : Expr T) :
    compileWith Assembly.emitPacked functions e = compile functions e := by
  rw [compileWith, Assembly.lowerWith_emitPacked]
  rfl

/-- Compiling with checks is compiling. -/
theorem compileWith_emitChecked (functions : FunctionRegistry T) (e : Expr T) :
    compileWith Assembly.emitChecked functions e = compile functions e := by
  have hempty : (Assembly.empty : Assembly T).Within :=
    ⟨Nat.zero_le _, Nat.zero_le _, Nat.zero_le _⟩
  rw [compileWith, Assembly.run_lowerWith_emitChecked functions e hempty]
  rfl

end Program

end Formulary
