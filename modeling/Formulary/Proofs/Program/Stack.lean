import Mathlib
import Formulary.Number.Fixed.Instance
import Formulary.Proofs.Expr.Depth
import Formulary.Proofs.Program.Checked
import Formulary.Proofs.Program.Simulation

/-!
# Proofs/Program/Stack — compiled programs keep to their stack

The height of the stack after some instructions is read off the instructions (`heightFrom`), and a run
that comes so far has a stack of just that height (`length_of_steps`). What compiling adds is that the
program is well formed: its operands decode to what was packed and point into the pools, every
instruction finds the values it takes, and `maxStack` is the greatest height on the way.
-/

namespace Formulary

/-! ## Heights -/

/-- How many values an operation takes off the stack; a call as many as it has arguments. -/
def OpCode.pops (arguments : Nat) : OpCode → Nat
  | pushConst | loadVar => 0
  | neg => 1
  | binary _ | compare _ => 2
  | call => arguments

namespace Instruction

/-- How many values an instruction takes off the stack. -/
def pops (i : Instruction) : Nat :=
  i.op.pops i.b

/-- Whether an instruction holds an operation and operands in range, which are read back from it. -/
def IsPacked (i : Instruction) : Prop :=
  ∃ op a b, a ≤ maxOperand ∧ b ≤ maxOperand ∧ i = pack op a b ∧ i.op = op ∧ i.a = a ∧ i.b = b

theorem isPacked_pack {op : OpCode} {a b : Nat} (ha : a ≤ maxOperand) (hb : b ≤ maxOperand) :
    (pack op a b).IsPacked :=
  ⟨op, a, b, ha, hb, rfl, op_pack ha hb, a_pack ha hb, b_pack ha hb⟩

end Instruction

/-- The height of a stack after instructions, which each put one value on it. -/
def heightFrom (height : Nat) (instructions : List Instruction) : Nat :=
  instructions.foldl (fun height i => height - i.pops + 1) height

theorem heightFrom_concat (height : Nat) (instructions : List Instruction) (i : Instruction) :
    heightFrom height (instructions ++ [i]) = heightFrom height instructions - i.pops + 1 := by
  rw [heightFrom, List.foldl_append]
  rfl

namespace Program

variable {T : Type}

/-- The height of the stack after the first `k` instructions. -/
def heightAt (program : Program T) (k : Nat) : Nat :=
  heightFrom 0 (program.instructions.toList.take k)

/-- Whether an instruction points into its pool. -/
def HasEntry (program : Program T) (i : Instruction) : Prop :=
  match i.op with
  | .pushConst => i.a < program.constants.size
  | .loadVar => i.a < program.vars.size
  | .call => i.a < program.functions.size
  | _ => True

/-- A program whose instructions decode to what was packed, point into the pools and find the values
that they take off the stack, which grows to `maxStack` and no further. -/
structure WellFormed (program : Program T) : Prop where
  isPacked : ∀ i ∈ program.instructions.toList, i.IsPacked
  hasEntry : ∀ i ∈ program.instructions.toList, program.HasEntry i
  pops_le : ∀ k i, program.instructions.toList[k]? = some i → i.pops ≤ program.heightAt k
  height_le : ∀ k, program.heightAt k ≤ program.maxStack
  height_eq : ∃ k, k ≤ program.instructions.size ∧ program.heightAt k = program.maxStack

variable [Numeric T]

/-! ## Runs -/

/-- The stack after the first `k` instructions. -/
def runTo (program : Program T) (bindings : Bindings T) (k : Nat) : Eval T (List T) :=
  program.steps bindings (program.instructions.toList.take k) []

/-- Whether the body of a function in the pool reports an underflow itself. -/
def BodyUnderflows (program : Program T) : Prop :=
  ∃ ref ∈ program.functions, ∃ values : List T,
    (ref.callable.invoke ref.name values).result = .error .stackUnderflow

/-- What the stack does in every run: it is as high as predicted, every instruction finds the values
it takes, a run that does not fail reaches `maxStack` and ends with one value, and no underflow is
reported but by the body of a function. -/
structure StackSafe (program : Program T) (bindings : Bindings T) : Prop where
  length_eq : ∀ k stack, (program.runTo bindings k).result = .ok stack →
    stack.length = program.heightAt k
  pops_le : ∀ k stack i, (program.runTo bindings k).result = .ok stack →
    program.instructions.toList[k]? = some i → i.pops ≤ stack.length
  length_le : ∀ k stack, (program.runTo bindings k).result = .ok stack →
    stack.length ≤ program.maxStack
  reached : ∀ value, (program.run bindings).result = .ok value →
    ∃ k stack, (program.runTo bindings k).result = .ok stack ∧ stack.length = program.maxStack
  final : ∀ stack, (program.runTo bindings program.instructions.size).result = .ok stack →
    ∃ value, stack = [value] ∧ (program.run bindings).result = .ok value
  no_underflow : ¬program.BodyUnderflows →
    (program.run bindings).result ≠ .error .stackUnderflow

variable {program : Program T} {bindings : Bindings T}

omit [Numeric T] in
/-- An operation on two values takes them off the stack and puts one on it. -/
theorem length_of_onTwo {f : T → T → Except FormulaError T} {stack after : List T}
    (h : (onTwo f stack : Eval T (List T)).result = .ok after) :
    2 ≤ stack.length ∧ after.length = stack.length - 2 + 1 := by
  unfold onTwo at h
  split at h
  · obtain ⟨value, _, hafter⟩ := Eval.result_bind_eq_ok h
    cases hafter
    simp only [List.length_cons]
    omega
  · cases h

/-- **One step**: an instruction that succeeds has found the values it takes, and leaves one. -/
theorem length_of_step {i : Instruction} {stack after : List T}
    (h : (program.step bindings i stack).result = .ok after) :
    i.pops ≤ stack.length ∧ after.length = stack.length - i.pops + 1 := by
  unfold step at h
  unfold Instruction.pops
  cases hop : i.op with
  | pushConst =>
    simp only [hop] at h
    split at h
    · cases h
      exact ⟨Nat.zero_le _, rfl⟩
    · cases h
  | loadVar =>
    simp only [hop] at h
    split at h
    · obtain ⟨value, _, hafter⟩ := Eval.result_bind_eq_ok h
      cases hafter
      exact ⟨Nat.zero_le _, rfl⟩
    · cases h
  | neg =>
    simp only [hop] at h
    split at h
    · obtain ⟨value, _, hafter⟩ := Eval.result_bind_eq_ok h
      cases hafter
      simp only [OpCode.pops, List.length_cons]
      omega
    · cases h
  | binary op =>
    simp only [hop] at h
    exact length_of_onTwo h
  | compare op =>
    simp only [hop] at h
    exact length_of_onTwo h
  | call =>
    simp only [hop] at h
    split at h
    · split at h
      · next hle =>
        obtain ⟨value, _, hafter⟩ := Eval.result_bind_eq_ok h
        cases hafter
        rw [List.length_cons, List.length_drop]
        exact ⟨hle, rfl⟩
      · cases h
    · cases h

/-- **A whole run**: the stack is as high as the instructions say. -/
theorem length_of_steps {instructions : List Instruction} {stack after : List T}
    (h : (program.steps bindings instructions stack).result = .ok after) :
    after.length = heightFrom stack.length instructions := by
  induction instructions generalizing stack with
  | nil =>
    cases h
    rfl
  | cons i rest ih =>
    rw [steps] at h
    obtain ⟨next, hstep, hrest⟩ := Eval.result_bind_eq_ok h
    rw [ih hrest, (length_of_step hstep).2]
    rfl

theorem length_of_runTo {k : Nat} {stack : List T}
    (h : (program.runTo bindings k).result = .ok stack) : stack.length = program.heightAt k :=
  length_of_steps h

/-- A run that ends has come to every instruction on the way. -/
theorem runTo_of_le {j k : Nat} {stack : List T} (hjk : j ≤ k)
    (h : (program.runTo bindings k).result = .ok stack) :
    ∃ before, (program.runTo bindings j).result = .ok before := by
  have hsplit : program.instructions.toList.take k =
      program.instructions.toList.take j ++ (program.instructions.toList.take k).drop j := by
    conv => lhs; rw [← List.take_append_drop j (program.instructions.toList.take k)]
    rw [List.take_take, Nat.min_eq_left hjk]
  rw [runTo, hsplit, steps_append] at h
  obtain ⟨before, hbefore, _⟩ := Eval.result_bind_eq_ok h
  exact ⟨before, hbefore⟩

theorem runTo_succ {k : Nat} {i : Instruction} (h : program.instructions.toList[k]? = some i) :
    program.runTo bindings (k + 1) = program.runTo bindings k >>= program.step bindings i := by
  rw [runTo, List.take_add_one, h, steps_append]
  refine bind_congr fun stack => ?_
  rw [Option.toList_some, steps]
  exact bind_pure _

/-! ## Underflow -/

omit [Numeric T] in
theorem onTwo_ne_underflow {f : T → T → Except FormulaError T}
    (hf : ∀ a b, f a b ≠ .error .stackUnderflow) {stack : List T} (h : 2 ≤ stack.length) :
    (onTwo f stack : Eval T (List T)).result ≠ .error .stackUnderflow := by
  match stack, h with
  | right :: left :: rest, _ =>
    rw [onTwo, Eval.result_bind, Eval.result_ofExcept]
    cases hvalue : f left right with
    | ok value => exact nofun
    | error error =>
      rintro herror
      cases herror
      exact hf left right hvalue

theorem liftArithmetic_ne_underflow {α : Type} (x : Except ArithmeticError α) :
    liftArithmetic x ≠ .error .stackUnderflow := by
  cases x with
  | ok value => exact nofun
  | error cause => exact nofun

/-- An instruction that finds what it needs does not report an underflow. -/
theorem step_ne_underflow (hbodies : ¬program.BodyUnderflows) {i : Instruction} {stack : List T}
    (hentry : program.HasEntry i) (hpops : i.pops ≤ stack.length) :
    (program.step bindings i stack).result ≠ .error .stackUnderflow := by
  unfold HasEntry at hentry
  unfold Instruction.pops at hpops
  unfold step
  cases hop : i.op with
  | pushConst =>
    simp only [hop] at hentry ⊢
    rw [Array.getElem?_eq_getElem hentry]
    exact nofun
  | loadVar =>
    simp only [hop] at hentry ⊢
    rw [Array.getElem?_eq_getElem hentry]
    change Eval.result (readVariable _ _ >>= _) ≠ _
    rw [Eval.result_bind]
    cases bindings.getFolded? program.vars[i.a].folded with
    | some value => exact nofun
    | none => exact nofun
  | neg =>
    simp only [hop, OpCode.pops] at hpops ⊢
    match stack, hpops with
    | value :: rest, _ =>
      change Eval.result (Eval.ofExcept _ >>= _) ≠ _
      rw [Eval.result_bind, Eval.result_ofExcept]
      cases hneg : (Numeric.neg value : Except ArithmeticError T) with
      | ok value => exact nofun
      | error cause => exact nofun
  | binary op =>
    simp only [hop, OpCode.pops] at hpops ⊢
    exact onTwo_ne_underflow (fun a b => liftArithmetic_ne_underflow _) hpops
  | compare op =>
    simp only [hop, OpCode.pops] at hpops ⊢
    have hvalue : ∀ a b : T, (.ok (op.apply a b) : Except FormulaError T) ≠ .error .stackUnderflow :=
      fun a b => nofun
    exact onTwo_ne_underflow hvalue hpops
  | call =>
    simp only [hop, OpCode.pops] at hentry hpops ⊢
    rw [Array.getElem?_eq_getElem hentry]
    simp only [if_pos hpops]
    rw [Eval.result_bind]
    cases hvalue : (program.functions[i.a].callable.invoke program.functions[i.a].name
        (stack.take i.b).reverse).result with
    | ok value => exact nofun
    | error error =>
      rintro herror
      cases herror
      exact hbodies ⟨_, Array.getElem_mem hentry, _, hvalue⟩

namespace WellFormed

variable (h : program.WellFormed)
include h

theorem served {k : Nat} {stack : List T} {i : Instruction}
    (hstack : (program.runTo bindings k).result = .ok stack)
    (hi : program.instructions.toList[k]? = some i) : i.pops ≤ stack.length := by
  rw [length_of_runTo hstack]
  exact h.pops_le k i hi

/-- No underflow is reported on the way, by induction on how far the run has come. -/
theorem runTo_ne_underflow (hbodies : ¬program.BodyUnderflows) (k : Nat) :
    (program.runTo bindings k).result ≠ .error .stackUnderflow := by
  induction k with
  | zero =>
    rw [runTo, List.take_zero, steps, Eval.result_pure]
    intro h
    cases h
  | succ k ih =>
    cases hi : program.instructions.toList[k]? with
    | none =>
      rw [runTo, List.take_add_one, hi, Option.toList_none, List.append_nil]
      exact ih
    | some i =>
      rw [runTo_succ hi, Eval.result_bind]
      cases hstack : (program.runTo bindings k).result with
      | ok stack =>
        exact step_ne_underflow hbodies (h.hasEntry i (List.mem_of_getElem? hi))
          (h.served hstack hi)
      | error error =>
        rintro herror
        cases herror
        exact ih hstack

end WellFormed

theorem run_eq (program : Program T) (bindings : Bindings T) :
    program.run bindings = (do
      match ← program.runTo bindings program.instructions.size with
      | value :: _ => pure value
      | [] => throw .stackUnderflow) := by
  rw [runTo, ← Array.length_toList, List.take_length]
  rfl

/-- **Well-formed programs are safe**, if their instructions leave one value. -/
theorem WellFormed.stackSafe (h : program.WellFormed)
    (hone : program.heightAt program.instructions.size = 1) (bindings : Bindings T) :
    program.StackSafe bindings where
  length_eq _ _ hstack := length_of_runTo hstack
  pops_le _ _ _ hstack hi := h.served hstack hi
  length_le k stack hstack := by
    rw [length_of_runTo hstack]
    exact h.height_le k
  reached value hvalue := by
    rw [run_eq] at hvalue
    obtain ⟨stack, hstack, _⟩ := Eval.result_bind_eq_ok hvalue
    obtain ⟨k, hle, hk⟩ := h.height_eq
    obtain ⟨before, hbefore⟩ := runTo_of_le hle hstack
    exact ⟨k, before, hbefore, (length_of_runTo hbefore).trans hk⟩
  final stack hstack := by
    obtain ⟨value, rfl⟩ := List.length_eq_one_iff.1 ((length_of_runTo hstack).trans hone)
    refine ⟨value, rfl, ?_⟩
    rw [run_eq, Eval.result_bind, hstack]
    rfl
  no_underflow hbodies := by
    rw [run_eq, Eval.result_bind]
    cases hstack : (program.runTo bindings program.instructions.size).result with
    | ok stack =>
      obtain ⟨value, rfl⟩ := List.length_eq_one_iff.1 ((length_of_runTo hstack).trans hone)
      exact nofun
    | error error =>
      rintro herror
      cases herror
      exact h.runTo_ne_underflow hbodies _ hstack

end Program

/-! ## Compiled programs -/

namespace Assembly

variable {T : Type}

/-- An assembly whose program is well formed and whose height is the one after its instructions. -/
structure WellFormed (s : Assembly T) : Prop extends s.toProgram.WellFormed where
  height_eq_heightAt : s.height = s.toProgram.heightAt s.instructions.size

theorem wellFormed_empty : (empty : Assembly T).WellFormed where
  isPacked _ hi := (List.not_mem_nil hi).elim
  hasEntry _ hi := (List.not_mem_nil hi).elim
  pops_le _ _ hi := by cases hi
  height_le k := by
    rw [Program.heightAt]
    cases k <;> exact Nat.le_refl _
  height_eq := ⟨0, Nat.le_refl _, rfl⟩
  height_eq_heightAt := rfl

/-- Growing pools change nothing about the instructions. -/
theorem WellFormed.grow {s t : Assembly T} (h : s.WellFormed) (hext : t.Extends s)
    (hinstructions : t.instructions = s.instructions) (hheight : t.height = s.height)
    (hmax : t.maxHeight = s.maxHeight) : t.WellFormed := by
  obtain ⟨instructions, constants, vars, functions, height, maxHeight⟩ := t
  cases hinstructions
  cases hheight
  cases hmax
  exact
    { isPacked := h.isPacked
      hasEntry := fun i hi => by
        have hold := h.hasEntry i hi
        unfold Program.HasEntry at hold ⊢
        split at hold
        · exact Nat.lt_of_lt_of_le hold hext.constants.size_le
        · exact Nat.lt_of_lt_of_le hold hext.vars.size_le
        · exact Nat.lt_of_lt_of_le hold hext.functions.size_le
        · trivial
      pops_le := h.pops_le
      height_le := h.height_le
      height_eq := h.height_eq
      height_eq_heightAt := h.height_eq_heightAt }

theorem heightAt_push_of_le {s : Assembly T} {i : Instruction} {pops k : Nat}
    (hk : k ≤ s.instructions.size) :
    (s.push i pops).toProgram.heightAt k = s.toProgram.heightAt k := by
  have htake : (s.instructions.push i).toList.take k = s.instructions.toList.take k := by
    rw [Array.toList_push, List.take_append_of_le_length (by rwa [Array.length_toList])]
  exact congrArg (heightFrom 0) htake

theorem heightAt_push_of_lt {s : Assembly T} {i : Instruction} {pops k : Nat}
    (hk : s.instructions.size < k) :
    (s.push i pops).toProgram.heightAt k =
      s.toProgram.heightAt s.instructions.size - i.pops + 1 := by
  have htake : (s.instructions.push i).toList.take k = s.instructions.toList ++ [i] := by
    rw [Array.toList_push, List.take_of_length_le]
    rw [List.length_append, Array.length_toList]
    exact hk
  have hall : s.instructions.toList.take s.instructions.size = s.instructions.toList := by
    rw [← Array.length_toList, List.take_length]
  change heightFrom 0 ((s.instructions.push i).toList.take k) =
    heightFrom 0 (s.instructions.toList.take s.instructions.size) - i.pops + 1
  rw [htake, hall, heightFrom_concat]

namespace WellFormed

variable {s : Assembly T} (h : s.WellFormed) {i : Instruction} {pops : Nat}
include h

theorem height_push (hpops : i.pops = pops) :
    (s.push i pops).height =
      (s.push i pops).toProgram.heightAt (s.push i pops).instructions.size := by
  have hsize : s.instructions.size < (s.push i pops).instructions.size := by
    change s.instructions.size < (s.instructions.push i).size
    rw [Array.size_push]
    exact Nat.lt_succ_self _
  rw [heightAt_push_of_lt hsize, ← h.height_eq_heightAt, hpops]
  rfl

/-- The instructions before still find their values, and so does the new one. -/
theorem pops_le_push (hpops : i.pops = pops) (hle : pops ≤ s.height) {k : Nat} {j : Instruction}
    (hj : (s.instructions.toList ++ [i])[k]? = some j) :
    j.pops ≤ (s.push i pops).toProgram.heightAt k := by
  rcases Nat.lt_trichotomy k s.instructions.size with hlt | rfl | hgt
  · rw [heightAt_push_of_le (Nat.le_of_lt hlt)]
    rw [List.getElem?_append_left (by rwa [Array.length_toList])] at hj
    exact h.pops_le k j hj
  · rw [heightAt_push_of_le (Nat.le_refl _), ← h.height_eq_heightAt]
    rw [← Array.length_toList, List.getElem?_concat_length, Option.some.injEq] at hj
    rwa [← hj, hpops]
  · rw [List.getElem?_eq_none] at hj
    · cases hj
    · rw [List.length_append, Array.length_toList]
      exact hgt

theorem heightAt_push_le (hpops : i.pops = pops) (k : Nat) :
    (s.push i pops).toProgram.heightAt k ≤ max s.maxHeight (s.push i pops).height := by
  rcases Nat.lt_or_ge s.instructions.size k with hlt | hge
  · rw [heightAt_push_of_lt hlt, ← h.height_eq_heightAt, hpops]
    exact Nat.le_max_right _ _
  · rw [heightAt_push_of_le hge]
    exact Nat.le_trans (h.height_le k) (Nat.le_max_left _ _)

/-- The greatest height is the one before or the height behind the new instruction. -/
theorem exists_heightAt_push_eq (hpops : i.pops = pops) :
    ∃ k, k ≤ (s.push i pops).instructions.size ∧
      (s.push i pops).toProgram.heightAt k = max s.maxHeight (s.push i pops).height := by
  rcases Nat.le_total s.maxHeight (s.push i pops).height with hge | hge
  · rw [Nat.max_eq_right hge]
    exact ⟨_, Nat.le_refl _, (h.height_push hpops).symm⟩
  · rw [Nat.max_eq_left hge]
    obtain ⟨k, hk, hreached⟩ := h.height_eq
    have hgrown : s.instructions.size ≤ (s.instructions.push i).size := by
      rw [Array.size_push]
      exact Nat.le_succ _
    refine ⟨k, Nat.le_trans hk hgrown, ?_⟩
    rw [heightAt_push_of_le hk, hreached]
    rfl

/-- **One more instruction**, in range, with an entry and with the values that it takes. -/
theorem push (hpacked : i.IsPacked) (hentry : s.toProgram.HasEntry i) (hpops : i.pops = pops)
    (hle : pops ≤ s.height) : (s.push i pops).WellFormed := by
  have hlist : (s.push i pops).toProgram.instructions.toList = s.instructions.toList ++ [i] :=
    Array.toList_push
  refine ⟨⟨fun j hj => ?_, fun j hj => ?_, fun k j hj => ?_, h.heightAt_push_le hpops,
    h.exists_heightAt_push_eq hpops⟩, h.height_push hpops⟩
  · rw [hlist, List.mem_append, List.mem_singleton] at hj
    rcases hj with hold | rfl
    · exact h.isPacked j hold
    · exact hpacked
  · rw [hlist, List.mem_append, List.mem_singleton] at hj
    rcases hj with hold | rfl
    · exact h.hasEntry j hold
    · exact hentry
  · rw [hlist] at hj
    exact h.pops_le_push hpops hle hj

end WellFormed

/-! ## The instructions of an expression -/

theorem wellFormed_pushConstant {s : Assembly T} (h : s.WellFormed) (value : T)
    (hsize : s.constants.size < operandRange) : (s.pushConstant value).WellFormed := by
  have hindex : s.constants.size ≤ maxOperand := succ_le_operandRange.1 hsize
  have hentered : (s.enterConstant value).WellFormed :=
    h.grow ⟨Pool.extends_push _ _, .refl _, .refl _⟩ rfl rfl rfl
  refine hentered.push (Instruction.isPacked_pack hindex (Nat.zero_le _)) ?_ ?_ (Nat.zero_le _)
  · rw [Program.HasEntry, Instruction.op_pack hindex (Nat.zero_le _),
      Instruction.a_pack hindex (Nat.zero_le _)]
    change s.constants.size < (s.constants.push value).size
    rw [Array.size_push]
    exact Nat.lt_succ_self _
  · rw [Instruction.pops, Instruction.op_pack hindex (Nat.zero_le _)]
    rfl

theorem wellFormed_variable {s : Assembly T} (h : s.WellFormed) (name : String)
    (hsize : (s.enterVariable name).vars.size ≤ operandRange) :
    ((s.enterVariable name).push (.pack .loadVar (s.variableAt name) 0) 0).WellFormed := by
  have hlt : s.variableAt name < (s.enterVariable name).vars.size := Pool.indexOf_lt_size _ _ _
  have hindex : s.variableAt name ≤ maxOperand :=
    succ_le_operandRange.1 (Nat.le_trans hlt hsize)
  have hentered : (s.enterVariable name).WellFormed :=
    h.grow ⟨.refl _, Pool.extends_enter _ _ _, .refl _⟩ rfl rfl rfl
  refine hentered.push (Instruction.isPacked_pack hindex (Nat.zero_le _)) ?_ ?_ (Nat.zero_le _)
  · rw [Program.HasEntry, Instruction.op_pack hindex (Nat.zero_le _),
      Instruction.a_pack hindex (Nat.zero_le _)]
    exact hlt
  · rw [Instruction.pops, Instruction.op_pack hindex (Nat.zero_le _)]
    rfl

/-- An instruction without operands of its own. -/
theorem WellFormed.pushOperator {s : Assembly T} (h : s.WellFormed) {op : OpCode} {pops : Nat}
    (hpops : op.pops 0 = pops)
    (hentry : s.toProgram.HasEntry (.pack op 0 0)) (hle : pops ≤ s.height) :
    (s.push (.pack op 0 0) pops).WellFormed := by
  refine h.push (Instruction.isPacked_pack (Nat.zero_le _) (Nat.zero_le _)) hentry ?_ hle
  rw [Instruction.pops, Instruction.op_pack (Nat.zero_le _) (Nat.zero_le _),
    Instruction.b_pack (Nat.zero_le _) (Nat.zero_le _), hpops]

variable [Numeric T] {functions : FunctionRegistry T}

theorem wellFormed_loweredAll {arguments : List (Expr T)}
    (hargs : ∀ e ∈ arguments, ∀ s : Assembly T, s.WellFormed → Fits functions s e →
      e.validate functions = .ok () → (lowered functions s e).WellFormed) {s : Assembly T}
    (h : s.WellFormed) (hfits : FitsAll functions s arguments)
    (hvalid : Expr.validateAll functions arguments = .ok ()) :
    (loweredAll functions s arguments).WellFormed := by
  induction arguments generalizing s with
  | nil => exact h
  | cons e rest ih =>
    rw [FitsAll] at hfits
    rw [Expr.validateAll] at hvalid
    obtain ⟨_, hvalidHead, hvalidRest⟩ := bind_eq_ok hvalid
    rw [loweredAll]
    exact ih (fun e he => hargs e (List.mem_cons_of_mem _ he))
      (hargs e List.mem_cons_self s h hfits.1 hvalidHead) hfits.2 hvalidRest

/-- An operator behind its operands. -/
theorem wellFormed_operator {left right : Expr T} {op : OpCode} {s : Assembly T}
    (hleft : (lowered functions s left).WellFormed)
    (hright : (lowered functions s left).WellFormed →
      (lowered functions (lowered functions s left) right).WellFormed)
    (hvalid : (do left.validate functions; right.validate functions) = .ok ())
    (hpops : op.pops 0 = 2) (hentry : ∀ program : Program T, program.HasEntry (.pack op 0 0)) :
    ((lowered functions (lowered functions s left) right).push (.pack op 0 0) 2).WellFormed := by
  obtain ⟨_, hvalidLeft, hvalidRight⟩ := bind_eq_ok hvalid
  refine (hright hleft).pushOperator hpops (hentry _) ?_
  rw [height_lowered hvalidRight, height_lowered hvalidLeft]
  omega

/-- A call behind its arguments. -/
theorem wellFormed_call {s : Assembly T} {info : FunctionInfo T} {arguments : List (Expr T)}
    (hall : (loweredAll functions (s.enterFunction info) arguments).WellFormed)
    (hsize : (s.enterFunction info).functions.size ≤ operandRange)
    (hcount : arguments.length ≤ maxOperand)
    (hvalid : Expr.validateAll functions arguments = .ok ()) :
    ((loweredAll functions (s.enterFunction info) arguments).push
      (.pack .call (s.functionAt info) arguments.length) arguments.length).WellFormed := by
  have hlt : s.functionAt info < (s.enterFunction info).functions.size :=
    Pool.indexOf_lt_size _ _ _
  have hindex : s.functionAt info ≤ maxOperand :=
    succ_le_operandRange.1 (Nat.le_trans hlt hsize)
  refine hall.push (Instruction.isPacked_pack hindex hcount) ?_ ?_ ?_
  · rw [Program.HasEntry, Instruction.op_pack hindex hcount, Instruction.a_pack hindex hcount]
    exact Nat.lt_of_lt_of_le hlt (extends_loweredAll functions _ arguments).functions.size_le
  · rw [Instruction.pops, Instruction.op_pack hindex hcount, Instruction.b_pack hindex hcount]
    rfl
  · rw [height_loweredAll (fun e _ s => height_lowered) hvalid]
    omega

omit [Numeric T] in
/-- Operators take no entry from a pool. -/
theorem hasEntry_operator {op : OpCode} (program : Program T) (hconst : op ≠ .pushConst)
    (hvar : op ≠ .loadVar) (hcall : op ≠ .call) : program.HasEntry (.pack op 0 0) := by
  rw [Program.HasEntry, Instruction.op_pack (Nat.zero_le _) (Nat.zero_le _)]
  cases op with
  | pushConst => exact absurd rfl hconst
  | loadVar => exact absurd rfl hvar
  | call => exact absurd rfl hcall
  | _ => trivial

/-- **Lowering keeps an assembly well formed**, by induction on the expression. -/
theorem wellFormed_lowered (e : Expr T) {s : Assembly T} (h : s.WellFormed)
    (hfits : Fits functions s e) (hvalid : e.validate functions = .ok ()) :
    (lowered functions s e).WellFormed := by
  induction e using Expr.induct generalizing s with
  | int i =>
    rw [Fits] at hfits
    rw [lowered]
    exact wellFormed_pushConstant h _ hfits
  | const x =>
    rw [Fits] at hfits
    rw [lowered]
    exact wellFormed_pushConstant h _ hfits
  | var name =>
    rw [Fits] at hfits
    rw [lowered]
    exact wellFormed_variable h name hfits
  | binary op left right hleft hright =>
    rw [Fits] at hfits
    rw [Expr.validate] at hvalid
    obtain ⟨_, hvalidLeft, hvalidRight⟩ := bind_eq_ok hvalid
    rw [lowered]
    exact wellFormed_operator (hleft h hfits.1 hvalidLeft)
      (fun ht => hright ht hfits.2 hvalidRight) hvalid rfl
      fun program => hasEntry_operator program (by simp) (by simp) (by simp)
  | neg operand hoperand =>
    rw [Fits] at hfits
    rw [Expr.validate] at hvalid
    rw [lowered]
    refine (hoperand h hfits hvalid).pushOperator rfl
      (hasEntry_operator _ (by simp) (by simp) (by simp)) ?_
    rw [height_lowered hvalid]
    omega
  | compare op left right hleft hright =>
    rw [Fits] at hfits
    rw [Expr.validate] at hvalid
    obtain ⟨_, hvalidLeft, hvalidRight⟩ := bind_eq_ok hvalid
    rw [lowered]
    exact wellFormed_operator (hleft h hfits.1 hvalidLeft)
      (fun ht => hright ht hfits.2 hvalidRight) hvalid rfl
      fun program => hasEntry_operator program (by simp) (by simp) (by simp)
  | call name arguments harguments =>
    rw [Fits] at hfits
    rw [Expr.validate] at hvalid
    obtain ⟨info, hresolve, hvalidAll⟩ := bind_eq_ok hvalid
    rw [lowered]
    rw [(FunctionRegistry.resolve_eq_ok hresolve).1] at hfits ⊢
    have hentered : (s.enterFunction info).WellFormed :=
      h.grow ⟨.refl _, .refl _, Pool.extends_enter _ _ _⟩ rfl rfl rfl
    exact wellFormed_call (wellFormed_loweredAll (fun e he s => harguments e he) hentered
      hfits.2.1 hvalidAll) hfits.1 hfits.2.2 hvalidAll

end Assembly

namespace Program

variable {T : Type} [Numeric T]

/-- A program that compiling yields is the assembly after its expression, which fits. -/
theorem eq_lowered_of_compile {functions : FunctionRegistry T} {e : Expr T} {program : Program T}
    (h : compile functions e = .ok program) :
    program = (Assembly.lowered functions .empty e).toProgram ∧
      Assembly.Fits functions .empty e ∧ e.validate functions = .ok () := by
  have hempty : (Assembly.empty : Assembly T).Within :=
    ⟨Nat.zero_le _, Nat.zero_le _, Nat.zero_le _⟩
  have houtcome := Assembly.outcome_lower functions e hempty
  obtain ⟨_, _, hrest⟩ := bind_eq_ok h
  obtain ⟨⟨_, s⟩, hrun, hprogram⟩ := bind_eq_ok hrest
  rw [hrun] at houtcome
  cases houtcome with
  | done hvalid hfits =>
    cases hprogram
    exact ⟨rfl, hfits, hvalid⟩

/-- **Compiled programs are well formed and safe on the stack.** Compiling with every check turned on
yields the same program, so the tracked height never falls below zero and no operand is cut off. The
instructions decode to what was packed and point into the pools, and every run keeps to the stack that
was predicted. -/
theorem compile_stackSafe {functions : FunctionRegistry T} {e : Expr T} {program : Program T}
    (h : compile functions e = .ok program) :
    compileWith Assembly.emitChecked functions e = .ok program ∧ program.WellFormed ∧
      ∀ bindings, program.StackSafe bindings := by
  obtain ⟨rfl, hfits, hvalid⟩ := eq_lowered_of_compile h
  have hwell : (Assembly.lowered functions .empty e).WellFormed :=
    Assembly.wellFormed_lowered e Assembly.wellFormed_empty hfits hvalid
  have hone : (Assembly.lowered functions .empty e).toProgram.heightAt
      (Assembly.lowered functions .empty e).instructions.size = 1 := by
    rw [← hwell.height_eq_heightAt, Assembly.height_lowered hvalid]
    rfl
  refine ⟨?_, hwell.toWellFormed, fun bindings => hwell.toWellFormed.stackSafe hone bindings⟩
  rw [compileWith_emitChecked, h]

/-- The program of one less the opposite of two keeps to a stack of two values. -/
theorem compile_stackSafe_difference :
    compile .empty (.binary .sub (.const .one) (.neg (.int 2)) : Expr Fixed) =
        .ok ⟨#[.pack .pushConst 0 0, .pack .pushConst 1 0, .pack .neg 0 0,
          .pack (.binary .sub) 0 0], #[.one, .ofInt32 2], #[], #[], 2⟩ ∧
      StackSafe ⟨#[.pack .pushConst 0 0, .pack .pushConst 1 0, .pack .neg 0 0,
        .pack (.binary .sub) 0 0], #[.one, .ofInt32 2], #[], #[], 2⟩ (.empty : Bindings Fixed) := by
  have hdepth : (.binary .sub (.const .one) (.neg (.int 2)) : Expr Fixed).checkDepth = .ok () :=
    Expr.checkDepth_eq_ok.2 (by decide)
  have hcompile : compile .empty (.binary .sub (.const .one) (.neg (.int 2)) : Expr Fixed) =
      .ok ⟨#[.pack .pushConst 0 0, .pack .pushConst 1 0, .pack .neg 0 0,
        .pack (.binary .sub) 0 0], #[.one, .ofInt32 2], #[], #[], 2⟩ := by
    rw [compile, hdepth]
    rfl
  exact ⟨hcompile, (compile_stackSafe hcompile).2.2 .empty⟩

end Program

end Formulary
