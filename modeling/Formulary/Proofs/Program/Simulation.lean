import Formulary.Program.Machine
import Formulary.Proofs.Program.Pools

/-!
# Proofs/Program/Simulation — programs compute the values of expressions

Running the instructions of an expression pushes its value, makes its calls and fails as it does
(`computes`). A variable is loaded with the spelling that entered the pool first. That spelling
shows only in the error of an unbound variable, and a program that comes to a later spelling has
loaded the first one before: `Ready` says so.
-/

namespace Formulary

variable {T : Type} [Numeric T]

namespace Program

/-! ## Steps -/

theorem steps_append (program : Program T) (bindings : Bindings T) (xs ys : List Instruction)
    (stack : List T) : program.steps bindings (xs ++ ys) stack =
      program.steps bindings xs stack >>= program.steps bindings ys := by
  induction xs generalizing stack with
  | nil =>
    rw [List.nil_append, steps, pure_bind]
  | cons x xs ih =>
    rw [List.cons_append, steps, steps, bind_assoc]
    exact bind_congr ih

/-- The stack after the instructions of an assembly. -/
def runFrom (program : Program T) (bindings : Bindings T) (s : Assembly T) : Eval T (List T) :=
  program.steps bindings s.instructions.toList []

theorem runFrom_push (program : Program T) (bindings : Bindings T) (s : Assembly T)
    (i : Instruction) (pops : Nat) : program.runFrom bindings (s.push i pops) =
      program.runFrom bindings s >>= program.step bindings i := by
  have hlist : (s.push i pops).instructions.toList = s.instructions.toList ++ [i] :=
    Array.toList_push
  rw [runFrom, hlist, steps_append]
  refine bind_congr fun stack => ?_
  rw [steps]
  exact bind_pure _

variable {program : Program T} {bindings : Bindings T}

variable {i : Instruction}

theorem step_pushConst {value : T} (hop : i.op = .pushConst)
    (h : program.constants[i.a]? = some value) (stack : List T) :
    program.step bindings i stack = pure (value :: stack) := by
  unfold step
  rw [hop]
  simp only [h]

theorem step_loadVar {ref : VariableRef} (hop : i.op = .loadVar)
    (h : program.vars[i.a]? = some ref) (stack : List T) :
    program.step bindings i stack = (do
      let value ← readVariable (bindings.getFolded? ref.folded) ref.written
      pure (value :: stack)) := by
  unfold step
  rw [hop]
  simp only [h]

theorem step_neg (hop : i.op = .neg) (value : T) (stack : List T) :
    program.step bindings i (value :: stack) = (do
      let value ← Eval.ofExcept (liftArithmetic (Numeric.neg value))
      pure (value :: stack)) := by
  unfold step
  rw [hop]

theorem step_binary {op : BinaryOp} (hop : i.op = .binary op) (left right : T) (stack : List T) :
    program.step bindings i (right :: left :: stack) = (do
      let value ← Eval.ofExcept (liftArithmetic (op.apply left right))
      pure (value :: stack)) := by
  unfold step
  rw [hop]
  rfl

theorem step_compare {op : CompareOp} (hop : i.op = .compare op) (left right : T)
    (stack : List T) :
    program.step bindings i (right :: left :: stack) = pure (op.apply left right :: stack) := by
  unfold step
  rw [hop]
  rfl

/-- A call takes its arguments off the stack, the last one on top. -/
theorem step_call {ref : FunctionRef T} {values : List T} (hop : i.op = .call)
    (h : program.functions[i.a]? = some ref) (hcount : i.b = values.length) (stack : List T) :
    program.step bindings i (values.reverse ++ stack) = (do
      let value ← ref.callable.invoke ref.name values
      pure (value :: stack)) := by
  have hle : values.length ≤ (values.reverse ++ stack).length := by
    rw [List.length_append, List.length_reverse]
    exact Nat.le_add_right _ _
  have htake : (values.reverse ++ stack).take values.length = values.reverse :=
    List.take_left' List.length_reverse
  have hdrop : (values.reverse ++ stack).drop values.length = stack :=
    List.drop_left' List.length_reverse
  unfold step
  rw [hop]
  simp only [h, hcount, if_pos hle, htake, hdrop, List.reverse_reverse]

/-! ## Invariants of a run -/

/-- A program whose pools extend those of an assembly. -/
structure Covers (program : Program T) (s : Assembly T) : Prop where
  constants : Pool.Extends program.constants s.constants
  vars : Pool.Extends program.vars s.vars
  functions : Pool.Extends program.functions s.functions

omit [Numeric T] in
theorem Covers.of_extends {s t : Assembly T} (h : Covers program t) (hts : t.Extends s) :
    Covers program s :=
  ⟨h.constants.trans hts.constants, h.vars.trans hts.vars, h.functions.trans hts.functions⟩

omit [Numeric T] in
theorem Covers.of_push {s : Assembly T} {i : Instruction} {pops : Nat}
    (h : Covers program (s.push i pops)) : Covers program s :=
  ⟨h.constants, h.vars, h.functions⟩

/-- Every entry of the pool of functions is the registered function of its name. -/
def Known (functions : FunctionRegistry T) (pool : Array (FunctionRef T)) : Prop :=
  ∀ ref ∈ pool, ∃ info, functions.infos.find? ref.name = some info ∧ info.callable = ref.callable

/-- **A run that has come this far has found a value for every variable in the pool.** -/
def Ready (program : Program T) (bindings : Bindings T) (s : Assembly T) : Prop :=
  ∀ stack, (program.runFrom bindings s).result = .ok stack →
    ∀ ref ∈ s.vars, ∃ value, bindings.getFolded? ref.folded = some value

theorem Ready.push {s : Assembly T} (h : Ready program bindings s) (i : Instruction) (pops : Nat) :
    Ready program bindings (s.push i pops) := by
  intro stack hstack
  rw [runFrom_push] at hstack
  obtain ⟨before, hbefore, _⟩ := Eval.result_bind_eq_ok hstack
  exact h before hbefore

/-! ## The instructions of an expression -/

/-- The run of an assembly goes on with an evaluation, whose outcome changes the stack. -/
structure Continues {α : Type} (program : Program T) (bindings : Bindings T) (s t : Assembly T)
    (x : Eval T α) (f : α → List T → List T) : Prop where
  run_eq : program.runFrom bindings t = (do
    let stack ← program.runFrom bindings s
    let a ← x
    pure (f a stack))
  ready : Ready program bindings t

theorem continues_constant {s : Assembly T} {value : T} (hsize : s.constants.size < operandRange)
    (hcovers : Covers program (s.pushConstant value)) (hready : Ready program bindings s) :
    Continues program bindings s (s.pushConstant value) (pure value) List.cons where
  run_eq := by
    have hindex : s.constants.size ≤ maxOperand := Assembly.succ_le_operandRange.1 hsize
    have hvalue : program.constants[s.constants.size]? = some value :=
      hcovers.constants _ _ Array.getElem?_push_size
    rw [Assembly.pushConstant, runFrom_push]
    refine bind_congr fun stack => ?_
    rw [step_pushConst (Instruction.op_pack hindex (Nat.zero_le _))
      (by rwa [Instruction.a_pack hindex (Nat.zero_le _)]), pure_bind]
  ready := Ready.push (s := s.enterConstant value) hready _ _

omit [Numeric T] in
/-- The place of a variable is an operand, and its entry there folds to the same name. -/
theorem entry_of_variable {s : Assembly T} {name : String}
    (hsize : (s.enterVariable name).vars.size ≤ operandRange)
    (hcovers : Covers program (s.enterVariable name)) :
    s.variableAt name ≤ maxOperand ∧ ∃ ref, program.vars[s.variableAt name]? = some ref ∧
      (ref = ⟨Text.foldName name, name⟩ ∨ ref ∈ s.vars ∧ ref.folded = Text.foldName name) := by
  have hlt : s.variableAt name < (s.enterVariable name).vars.size := Pool.indexOf_lt_size _ _ _
  obtain ⟨ref, hentry, href⟩ := Pool.getElem?_indexOf_enter (Assembly.isVariable name)
    ⟨Text.foldName name, name⟩ s.vars
  refine ⟨Assembly.succ_le_operandRange.1 (Nat.le_trans hlt hsize), ref,
    hcovers.vars _ _ hentry, ?_⟩
  refine href.imp_right fun ⟨hmem, hname⟩ => ⟨hmem, ?_⟩
  simpa [Assembly.isVariable] using hname

theorem continues_variable {functions : FunctionRegistry T} {s : Assembly T} {name : String}
    (hsize : (s.enterVariable name).vars.size ≤ operandRange)
    (hcovers : Covers program (s.enterVariable name)) (hready : Ready program bindings s) :
    Continues program bindings s
      ((s.enterVariable name).push (.pack .loadVar (s.variableAt name) 0) 0)
      (Expr.evaluate functions bindings (.var name)) List.cons := by
  obtain ⟨hindex, ref, hentry, href⟩ := entry_of_variable hsize hcovers
  have hop : (Instruction.pack .loadVar (s.variableAt name) 0).op = .loadVar :=
    Instruction.op_pack hindex (Nat.zero_le _)
  have hvar : program.vars[(Instruction.pack .loadVar (s.variableAt name) 0).a]? = some ref := by
    rwa [Instruction.a_pack hindex (Nat.zero_le _)]
  have hrun : program.runFrom bindings
      ((s.enterVariable name).push (.pack .loadVar (s.variableAt name) 0) 0) = (do
        let stack ← program.runFrom bindings s
        let value ← Expr.evaluate functions bindings (.var name)
        pure (value :: stack)) := by
    rw [runFrom_push]
    refine Eval.bind_congr_of_ok fun stack hstack => ?_
    rw [step_loadVar hop hvar, Expr.evaluate, Bindings.get?]
    rcases href with rfl | ⟨hmem, hfolded⟩
    · rfl
    · -- the spelling in the pool is an earlier one, but the variable has a value
      obtain ⟨value, hvalue⟩ := hready stack hstack ref hmem
      rw [hfolded] at hvalue
      rw [hfolded, hvalue]
      rfl
  refine ⟨hrun, ?_⟩
  intro stack hstack other hother
  rw [hrun] at hstack
  obtain ⟨before, hbefore, hload⟩ := Eval.result_bind_eq_ok hstack
  rcases Pool.mem_enter hother with rfl | hold
  · obtain ⟨value, hvalue, _⟩ := Eval.result_bind_eq_ok hload
    rw [Expr.evaluate, Bindings.get?] at hvalue
    cases hget : bindings.getFolded? (Text.foldName name) with
    | some value => exact ⟨value, rfl⟩
    | none =>
      rw [hget] at hvalue
      cases hvalue
  · exact hready before hbefore other hold

/-- An instruction that works on the outcome of an evaluation. -/
theorem Continues.push {α : Type} {s t : Assembly T} {x : Eval T α} {f : α → List T → List T}
    (h : Continues program bindings s t x f) {i : Instruction} {pops : Nat} {y : α → Eval T T}
    (hstep : ∀ a stack, x.result = .ok a →
      program.step bindings i (f a stack) = (do let value ← y a; pure (value :: stack))) :
    Continues program bindings s (t.push i pops) (x >>= y) List.cons where
  run_eq := by
    rw [runFrom_push, h.run_eq, bind_assoc]
    refine bind_congr fun stack => ?_
    rw [bind_assoc, bind_assoc]
    refine Eval.bind_congr_of_ok fun a ha => ?_
    rw [pure_bind, hstep a stack ha]
  ready := h.ready.push i pops

/-- One evaluation after the other. -/
theorem Continues.trans {α β : Type} {s t u : Assembly T} {x : Eval T α} {y : Eval T β}
    {f : α → List T → List T} {g : β → List T → List T}
    (h : Continues program bindings s t x f) (h' : Continues program bindings t u y g) :
    Continues program bindings s u (do let a ← x; let b ← y; pure (a, b))
      (fun p stack => g p.2 (f p.1 stack)) where
  run_eq := by
    rw [h'.run_eq, h.run_eq]
    simp only [bind_assoc, pure_bind]
  ready := h'.ready

omit [Numeric T] in
/-- The function at its place is the one that was resolved. -/
theorem entry_of_function {functions : FunctionRegistry T} {s : Assembly T} {name : String}
    {info : FunctionInfo T} (hget : functions.get? name = some info)
    (hknown : Known functions program.functions)
    (hsize : (s.enterFunction info).functions.size ≤ operandRange)
    (hcovers : Covers program (s.enterFunction info)) :
    s.functionAt info ≤ maxOperand ∧
      program.functions[s.functionAt info]? = some ⟨info.name, info.callable⟩ := by
  have hlt : s.functionAt info < (s.enterFunction info).functions.size := Pool.indexOf_lt_size _ _ _
  obtain ⟨ref, hentry, href⟩ := Pool.getElem?_indexOf_enter (Assembly.isFunction info)
    ⟨info.name, info.callable⟩ s.functions
  have hprogram := hcovers.functions _ _ hentry
  refine ⟨Assembly.succ_le_operandRange.1 (Nat.le_trans hlt hsize), hprogram.trans ?_⟩
  rcases href with rfl | ⟨_, hname⟩
  · rfl
  · have hname : ref.name = info.name := by simpa [Assembly.isFunction] using hname
    obtain ⟨known, hfind, hcallable⟩ := hknown ref (Array.mem_of_getElem? hprogram)
    rw [hname, functions.name_eq _ _ hget] at hfind
    have hinfo : known = info := Option.some.inj (hfind.symm.trans hget)
    rw [← hname, ← hinfo, hcallable]

theorem Continues.of_eq {α : Type} {s t : Assembly T} {x y : Eval T α} {f : α → List T → List T}
    (h : Continues program bindings s t x f) (hxy : x = y) : Continues program bindings s t y f :=
  hxy ▸ h

/-- What the instructions of an expression do, if they fit and the program covers them. -/
def Computes (functions : FunctionRegistry T) (program : Program T) (bindings : Bindings T)
    (e : Expr T) : Prop :=
  ∀ s : Assembly T, Assembly.Fits functions s e → e.validate functions = .ok () →
    Covers program (Assembly.lowered functions s e) → Ready program bindings s →
    Continues program bindings s (Assembly.lowered functions s e) (e.evaluate functions bindings)
      List.cons

variable {functions : FunctionRegistry T}

/-- Entering a function emits nothing. -/
theorem Continues.of_enterFunction {α : Type} {s t : Assembly T} {info : FunctionInfo T}
    {x : Eval T α} {f : α → List T → List T}
    (h : Continues program bindings (s.enterFunction info) t x f) :
    Continues program bindings s t x f :=
  ⟨h.run_eq, h.ready⟩

theorem continues_loweredAll {arguments : List (Expr T)}
    (hargs : ∀ e ∈ arguments, Computes functions program bindings e) {s : Assembly T}
    (hfits : Assembly.FitsAll functions s arguments)
    (hvalid : Expr.validateAll functions arguments = .ok ())
    (hcovers : Covers program (Assembly.loweredAll functions s arguments))
    (hready : Ready program bindings s) :
    Continues program bindings s (Assembly.loweredAll functions s arguments)
      (Expr.evaluateAll functions bindings arguments)
      (fun values stack => values.reverse ++ stack) := by
  induction arguments generalizing s with
  | nil =>
    rw [Assembly.loweredAll, Expr.evaluateAll]
    exact ⟨(bind_pure _).symm, hready⟩
  | cons e rest ih =>
    rw [Assembly.FitsAll] at hfits
    rw [Assembly.loweredAll] at hcovers ⊢
    rw [Expr.validateAll] at hvalid
    obtain ⟨_, hvalidHead, hvalidRest⟩ := bind_eq_ok hvalid
    have hhead := hargs e List.mem_cons_self s hfits.1 hvalidHead
      (hcovers.of_extends (Assembly.extends_loweredAll functions _ rest)) hready
    have hrest := ih (fun e he => hargs e (List.mem_cons_of_mem _ he)) hfits.2 hvalidRest hcovers
      hhead.ready
    refine ⟨?_, hrest.ready⟩
    rw [(hhead.trans hrest).run_eq, Expr.evaluateAll]
    simp only [bind_assoc, pure_bind, List.reverse_cons, List.append_assoc, List.singleton_append]

/-- An operator behind its operands, the right one on top. -/
theorem continues_operator {left right : Expr T} {s : Assembly T} {i : Instruction}
    {y : T → T → Eval T T} (hleft : Computes functions program bindings left)
    (hright : Computes functions program bindings right)
    (hfits : Assembly.Fits functions s left ∧
      Assembly.Fits functions (Assembly.lowered functions s left) right)
    (hvalid : (do left.validate functions; right.validate functions) = .ok ())
    (hcovers : Covers program
      ((Assembly.lowered functions (Assembly.lowered functions s left) right).push i 2))
    (hready : Ready program bindings s)
    (hstep : ∀ a b stack, program.step bindings i (b :: a :: stack) =
      (do let value ← y a b; pure (value :: stack))) :
    Continues program bindings s
      ((Assembly.lowered functions (Assembly.lowered functions s left) right).push i 2)
      (do
        let a ← left.evaluate functions bindings
        let b ← right.evaluate functions bindings
        y a b) List.cons := by
  obtain ⟨_, hvalidLeft, hvalidRight⟩ := bind_eq_ok hvalid
  have hl := hleft s hfits.1 hvalidLeft
    (hcovers.of_push.of_extends (Assembly.extends_lowered functions _ right)) hready
  have hboth := hl.trans (hright _ hfits.2 hvalidRight hcovers.of_push hl.ready)
  refine (hboth.push fun p stack _ => hstep p.1 p.2 stack).of_eq ?_
  simp only [bind_assoc, pure_bind]

/-- A call of a function that is resolved. -/
theorem continues_call {name : String} {arguments : List (Expr T)} {info : FunctionInfo T}
    {s : Assembly T} (hknown : Known functions program.functions)
    (hresolve : functions.resolve name arguments.length = .ok info)
    (hargs : ∀ e ∈ arguments, Computes functions program bindings e)
    (hsize : (s.enterFunction info).functions.size ≤ operandRange)
    (hfits : Assembly.FitsAll functions (s.enterFunction info) arguments)
    (hcount : arguments.length ≤ maxOperand)
    (hvalid : Expr.validateAll functions arguments = .ok ())
    (hcovers : Covers program
      (Assembly.loweredAll functions (s.enterFunction info) arguments))
    (hready : Ready program bindings s) :
    Continues program bindings s
      ((Assembly.loweredAll functions (s.enterFunction info) arguments).push
        (.pack .call (s.functionAt info) arguments.length) arguments.length)
      (Expr.evaluate functions bindings (.call name arguments)) List.cons := by
  obtain ⟨hindex, hentry⟩ := entry_of_function (FunctionRegistry.resolve_eq_ok hresolve).1 hknown
    hsize (hcovers.of_extends (Assembly.extends_loweredAll functions _ arguments))
  have hall := (continues_loweredAll hargs hfits hvalid hcovers hready).of_enterFunction
  refine (hall.push fun values stack hvalues => ?_).of_eq
    (Expr.evaluate_call_of_resolve hresolve bindings).symm
  have hfunction : program.functions[(Instruction.pack .call (s.functionAt info)
      arguments.length).a]? = some ⟨info.name, info.callable⟩ := by
    rw [Instruction.a_pack hindex hcount, hentry]
  have hvaluesCount : (Instruction.pack .call (s.functionAt info) arguments.length).b =
      values.length := by
    rw [Instruction.b_pack hindex hcount, Expr.length_of_evaluateAll hvalues]
  exact step_call (Instruction.op_pack hindex hcount) hfunction hvaluesCount stack

/-- **The instructions of an expression evaluate it**, after a run that is ready. -/
theorem computes (hknown : Known functions program.functions) (e : Expr T) :
    Computes functions program bindings e := by
  induction e using Expr.induct with
  | int i =>
    intro s hfits _ hcovers hready
    rw [Assembly.Fits] at hfits
    rw [Assembly.lowered] at hcovers ⊢
    rw [Expr.evaluate]
    exact continues_constant hfits hcovers hready
  | const x =>
    intro s hfits _ hcovers hready
    rw [Assembly.Fits] at hfits
    rw [Assembly.lowered] at hcovers ⊢
    rw [Expr.evaluate]
    exact continues_constant hfits hcovers hready
  | var name =>
    intro s hfits _ hcovers hready
    rw [Assembly.Fits] at hfits
    rw [Assembly.lowered] at hcovers ⊢
    exact continues_variable hfits hcovers.of_push hready
  | binary op left right hleft hright =>
    intro s hfits hvalid hcovers hready
    rw [Assembly.Fits] at hfits
    rw [Assembly.lowered] at hcovers ⊢
    rw [Expr.validate] at hvalid
    rw [Expr.evaluate]
    refine continues_operator hleft hright hfits hvalid hcovers hready fun a b stack => ?_
    exact step_binary (Instruction.op_pack (Nat.zero_le _) (Nat.zero_le _)) a b stack
  | neg operand hoperand =>
    intro s hfits hvalid hcovers hready
    rw [Assembly.Fits] at hfits
    rw [Assembly.lowered] at hcovers ⊢
    rw [Expr.validate] at hvalid
    rw [Expr.evaluate]
    refine (hoperand s hfits hvalid hcovers.of_push hready).push fun value stack _ => ?_
    exact step_neg (Instruction.op_pack (Nat.zero_le _) (Nat.zero_le _)) _ _
  | compare op left right hleft hright =>
    intro s hfits hvalid hcovers hready
    rw [Assembly.Fits] at hfits
    rw [Assembly.lowered] at hcovers ⊢
    rw [Expr.validate] at hvalid
    rw [Expr.evaluate]
    refine continues_operator hleft hright hfits hvalid hcovers hready fun a b stack => ?_
    rw [pure_bind]
    exact step_compare (Instruction.op_pack (Nat.zero_le _) (Nat.zero_le _)) a b stack
  | call name arguments harguments =>
    intro s hfits hvalid hcovers hready
    rw [Assembly.Fits] at hfits
    rw [Assembly.lowered] at hcovers ⊢
    rw [Expr.validate] at hvalid
    obtain ⟨info, hresolve, hvalidAll⟩ := bind_eq_ok hvalid
    rw [(FunctionRegistry.resolve_eq_ok hresolve).1] at hfits hcovers ⊢
    exact continues_call hknown hresolve harguments hfits.1 hfits.2.1 hfits.2.2 hvalidAll
      hcovers.of_push hready

/-! ## Whole programs -/

omit [Numeric T] in
theorem known_foldl {infos : List (FunctionInfo T)} {pool : Array (FunctionRef T)}
    (hinfos : ∀ info ∈ infos, functions.infos.find? info.name = some info)
    (hpool : Known functions pool) : Known functions (infos.foldl withFunction pool) := by
  induction infos generalizing pool with
  | nil => exact hpool
  | cons info infos ih =>
    refine ih (fun info hinfo => hinfos info (List.mem_cons_of_mem _ hinfo)) ?_
    intro ref href
    rcases Pool.mem_enter href with rfl | hold
    · exact ⟨info, hinfos info List.mem_cons_self, rfl⟩
    · exact hpool ref hold

/-- Only registered functions stand in the pool of an expression. -/
theorem known_lowered (functions : FunctionRegistry T) (e : Expr T) :
    Known functions (Assembly.lowered functions .empty e).functions := by
  rw [(Assembly.gathers_lowered e .empty).functions_eq]
  refine known_foldl (fun info hinfo => ?_) (fun ref href => (Array.not_mem_empty ref href).elim)
  obtain ⟨node, _, hnode⟩ := List.mem_filterMap.1 hinfo
  obtain ⟨call, _, hget⟩ := Option.bind_eq_some_iff.1 hnode
  have hfind : functions.infos.find? (Text.foldName call.1) = some info := hget
  rw [functions.name_eq _ _ hfind, hfind]

/-- **The program of an expression evaluates it.** -/
theorem run_lowered {e : Expr T} (hfits : Assembly.Fits functions .empty e)
    (hvalid : e.validate functions = .ok ()) :
    (Assembly.lowered functions .empty e).toProgram.run =
      fun bindings => e.evaluate functions bindings := by
  funext bindings
  have hcovers : Covers (Assembly.lowered functions .empty e).toProgram
      (Assembly.lowered functions .empty e) := ⟨.refl _, .refl _, .refl _⟩
  have hready : Ready (Assembly.lowered functions .empty e).toProgram bindings .empty :=
    fun _ _ ref href => (Array.not_mem_empty ref href).elim
  have hrun := (computes (known_lowered functions e) e .empty hfits hvalid hcovers hready).run_eq
  have hstart : runFrom (Assembly.lowered functions .empty e).toProgram bindings .empty =
      pure [] := rfl
  rw [hstart, pure_bind] at hrun
  change runFrom (Assembly.lowered functions .empty e).toProgram bindings
    (Assembly.lowered functions .empty e) >>= _ = _
  rw [hrun, bind_assoc]
  simp only [pure_bind, bind_pure]

end Program

end Formulary
