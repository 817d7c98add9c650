import Formulary.Formula
import Formulary.Proofs.Evaluation.Closure
import Formulary.Proofs.Expr.Depth
import Formulary.Proofs.Program.Simulation

/-!
# Proofs/Formula/Backends — the backends agree

Whatever builds an expression, it fails with the same error or yields the same evaluator: equal
results for all bindings, down to the spelling in an error, and equal calls in equal order. Only the
stack program has a limit of its own.
-/

namespace Formulary

variable {T : Type} [Numeric T]

namespace Backend

/-- Closures are built when the walk is, and are the same evaluator. -/
theorem build_compiled_eq (functions : FunctionRegistry T) (e : Expr T) :
    compiled.build functions e = interpreted.build functions e := by
  rw [build, build, Closure.compile, Closure.close_eq]
  rfl

/-- What the walk needs: an acceptable depth, and functions for all calls. -/
theorem build_interpreted_eq (functions : FunctionRegistry T) (e : Expr T) :
    interpreted.build functions e =
      if e.height ≤ maxDepth then
        (e.validate functions).map fun _ bindings => e.evaluate functions bindings
      else .error (.tooDeep maxDepth) := by
  rw [build, Expr.checkDepth, Expr.depth_eq_height]
  by_cases hdepth : e.height ≤ maxDepth
  · rw [if_pos hdepth, if_neg (Nat.not_lt.2 hdepth)]
    cases e.validate functions <;> rfl
  · rw [if_neg hdepth, if_pos (Nat.lt_of_not_le hdepth)]
    rfl

theorem build_interpreted_eq_error_iff {functions : FunctionRegistry T} {e : Expr T}
    {error : FormulaError} :
    interpreted.build functions e = .error error ↔
      maxDepth < e.height ∧ error = .tooDeep maxDepth ∨
        e.height ≤ maxDepth ∧ e.validate functions = .error error := by
  rw [build_interpreted_eq]
  by_cases hdepth : e.height ≤ maxDepth
  · rw [if_pos hdepth]
    cases e.validate functions with
    | ok _ => simp [Except.map, Nat.not_lt.2 hdepth]
    | error other => simp [Except.map, hdepth, Nat.not_lt.2 hdepth]
  · rw [if_neg hdepth]
    simp [hdepth, Nat.lt_of_not_le hdepth, eq_comm]

theorem build_interpreted_eq_ok_iff {functions : FunctionRegistry T} {e : Expr T} :
    interpreted.build functions e = .ok (fun bindings => e.evaluate functions bindings) ↔
      e.height ≤ maxDepth ∧ e.validate functions = .ok () := by
  rw [build_interpreted_eq]
  by_cases hdepth : e.height ≤ maxDepth
  · rw [if_pos hdepth]
    cases e.validate functions <;> simp [Except.map, hdepth]
  · simp [hdepth]

/-- Lowering a shallow expression ends in its program, in the error of validation or too large. -/
theorem build_bytecode_cases (functions : FunctionRegistry T) (e : Expr T) :
    bytecode.build functions e = interpreted.build functions e ∨
      bytecode.build functions e = .error (.programTooLarge maxOperand) ∧
        e.Oversized functions := by
  cases hdepth : e.checkDepth with
  | error error =>
    left
    simp only [build, Program.compile, hdepth]
    rfl
  | ok _ =>
    have hempty : (Assembly.empty : Assembly T).Within :=
      ⟨Nat.zero_le _, Nat.zero_le _, Nat.zero_le _⟩
    have houtcome := Assembly.outcome_lower functions e hempty
    simp only [build, Program.compile, hdepth]
    generalize hrun : (Assembly.lower functions e).run .empty = r at houtcome
    cases houtcome with
    | done hvalid hfits =>
      left
      rw [hvalid, ← Program.run_lowered hfits hvalid]
      rfl
    | refused error hvalid =>
      left
      rw [hvalid]
      rfl
    | tooLarge hfits =>
      right
      exact ⟨rfl, Assembly.oversized_of_not_fits hfits⟩

/-- Every backend builds what the walk does, but for stack programs that are too large. -/
theorem build_cases (backend : Backend) (functions : FunctionRegistry T) (e : Expr T) :
    backend.build functions e = interpreted.build functions e ∨
      backend = bytecode ∧ backend.build functions e = .error (.programTooLarge maxOperand) ∧
        e.Oversized functions := by
  cases backend with
  | interpreted => exact .inl rfl
  | compiled => exact .inl (build_compiled_eq functions e)
  | bytecode => exact (build_bytecode_cases functions e).imp_right fun h => ⟨rfl, h⟩

/-- A valid expression that is not too deep is built. -/
theorem build_of_valid (backend : Backend) {functions : FunctionRegistry T} {e : Expr T}
    (hdepth : e.checkDepth = .ok ()) (hvalid : e.validate functions = .ok ()) :
    (∃ evaluator, backend.build functions e = .ok evaluator) ∨
      backend = bytecode ∧ backend.build functions e = .error (.programTooLarge maxOperand) ∧
        e.Oversized functions := by
  refine (build_cases backend functions e).imp_left fun h => ?_
  rw [h]
  exact ⟨_, build_interpreted_eq_ok_iff.2 ⟨Expr.checkDepth_eq_ok.1 hdepth, hvalid⟩⟩

/-- **The backends agree** on every expression and registry: all of them fail with the same error, or
yield evaluators that have the same result and make the same calls for all bindings. Only the stack
program may be too large instead, and then a pool or a list of arguments is too long for an operand.

The common error is that of the depth, and for an acceptable depth that of validation, which is the
one of the first call that is refused. An expression without either is built, and its evaluator is the
walk over it. -/
theorem backends_agree (functions : FunctionRegistry T) (e : Expr T) :
    compiled.build functions e = interpreted.build functions e ∧
      (bytecode.build functions e = interpreted.build functions e ∨
        bytecode.build functions e = .error (.programTooLarge maxOperand) ∧
          e.Oversized functions) ∧
      (∀ error, interpreted.build functions e = .error error ↔
        maxDepth < e.height ∧ error = .tooDeep maxDepth ∨
          e.height ≤ maxDepth ∧ e.validate functions = .error error) ∧
      (interpreted.build functions e = .ok (fun bindings => e.evaluate functions bindings) ↔
        e.height ≤ maxDepth ∧ e.validate functions = .ok ()) ∧
      e.validate functions = (e.calls.findSome? functions.refusal?).elim (.ok ()) .error :=
  ⟨build_compiled_eq functions e, build_bytecode_cases functions e,
    fun _ => build_interpreted_eq_error_iff, build_interpreted_eq_ok_iff,
    Expr.validate_eq_refusal functions e⟩

end Backend

end Formulary
