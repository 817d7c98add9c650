import Formulary.Number.Fixed.Instance
import Formulary.Proofs.Expr.Depth
import Formulary.Proofs.Formula.Backends

/-!
# Proofs/Formula/Execution — evaluating an expression once

Closures and stack programs are built before they run, so an unusable call fails before anything is
evaluated. The walk comes to it only after the operands on the way (`reached`), and one of them may
fail first: that failure is then the error it reports.
-/

namespace Formulary

variable {T : Type} [Numeric T]

namespace Expr

mutual

/-- The operands of an expression that are evaluated before the first unusable call. -/
def reached (functions : FunctionRegistry T) : Expr T → List (Expr T)
  | int _ | const _ | var _ => []
  | binary _ left right | compare _ left right =>
    match left.validate functions with
    | .ok _ => left :: reached functions right
    | .error _ => reached functions left
  | neg operand => reached functions operand
  | call name arguments =>
    match functions.resolve name arguments.length with
    | .ok _ => reachedAll functions arguments
    | .error _ => []

/-- The expressions, and operands of them, that are evaluated before the first unusable call. -/
def reachedAll (functions : FunctionRegistry T) : List (Expr T) → List (Expr T)
  | [] => []
  | e :: rest =>
    match e.validate functions with
    | .ok _ => e :: reachedAll functions rest
    | .error _ => reached functions e

end

variable {functions : FunctionRegistry T} {error : FormulaError}

/-- The walk over operands, with an unusable call after them. -/
def failAfter {α : Type} (functions : FunctionRegistry T) (bindings : Bindings T)
    (operands : List (Expr T)) (error : FormulaError) : Eval T α := do
  let _ ← evaluateAll functions bindings operands
  throw error

theorem failAfter_nil {α : Type} (bindings : Bindings T) :
    (failAfter functions bindings [] error : Eval T α) = throw error := by
  rw [failAfter, evaluateAll, pure_bind]

theorem failAfter_cons {α : Type} (bindings : Bindings T) (e : Expr T) (rest : List (Expr T)) :
    (failAfter functions bindings (e :: rest) error : Eval T α) = (do
      let _ ← e.evaluate functions bindings
      failAfter functions bindings rest error) := by
  rw [failAfter, evaluateAll]
  simp only [failAfter, bind_assoc, pure_bind]

/-- What would follow the unusable call does not matter. -/
theorem failAfter_bind {α β : Type} (bindings : Bindings T) (operands : List (Expr T))
    (f : α → Eval T β) :
    failAfter functions bindings operands error >>= f =
      failAfter functions bindings operands error := by
  rw [failAfter, bind_assoc]
  rfl

theorem evaluateAll_of_validateAll_error {bindings : Bindings T} {arguments : List (Expr T)}
    (hargs : ∀ e ∈ arguments, validate functions e = .error error →
      evaluate functions bindings e = failAfter functions bindings (reached functions e) error)
    (h : validateAll functions arguments = .error error) :
    evaluateAll functions bindings arguments =
      failAfter functions bindings (reachedAll functions arguments) error := by
  induction arguments with
  | nil => cases h
  | cons e rest ih =>
    rw [validateAll] at h
    rw [evaluateAll, reachedAll]
    cases he : e.validate functions with
    | ok _ =>
      rw [he] at h
      rw [ih (fun e he => hargs e (List.mem_cons_of_mem _ he)) h, failAfter_cons]
      simp only [failAfter_bind]
    | error other =>
      rw [he] at h
      cases h
      rw [hargs e List.mem_cons_self he, failAfter_bind]

/-- An operator fails as its operands do: the left one, or else the right one after it. -/
theorem bind_bind_of_validate_error {bindings : Bindings T} {left right : Expr T}
    {f : T → T → Eval T T}
    (hleft : validate functions left = .error error →
      evaluate functions bindings left = failAfter functions bindings (reached functions left) error)
    (hright : validate functions right = .error error →
      evaluate functions bindings right =
        failAfter functions bindings (reached functions right) error)
    (h : (do left.validate functions; right.validate functions) = .error error) :
    (do
      let a ← left.evaluate functions bindings
      let b ← right.evaluate functions bindings
      f a b) = failAfter functions bindings (reached functions (.binary .add left right)) error := by
  rw [reached]
  cases hl : left.validate functions with
  | ok _ =>
    rw [hl] at h
    rw [hright h, failAfter_cons]
    simp only [failAfter_bind]
  | error other =>
    rw [hl] at h
    cases h
    rw [hleft hl, failAfter_bind]

/-- **The walk over an expression with an unusable call** evaluates the operands before that call and
fails there at the latest. -/
theorem evaluate_of_validate_error {e : Expr T} (bindings : Bindings T)
    (h : e.validate functions = .error error) :
    e.evaluate functions bindings = failAfter functions bindings (e.reached functions) error := by
  induction e using induct with
  | int i => cases h
  | const x => cases h
  | var name => cases h
  | binary op left right hleft hright =>
    rw [validate] at h
    rw [evaluate]
    exact bind_bind_of_validate_error hleft hright h
  | neg operand hoperand =>
    rw [validate] at h
    rw [evaluate, reached, hoperand h, failAfter_bind]
  | compare op left right hleft hright =>
    rw [validate] at h
    rw [evaluate]
    exact bind_bind_of_validate_error hleft hright h
  | call name arguments harguments =>
    rw [validate] at h
    rw [reached]
    cases hresolve : functions.resolve name arguments.length with
    | error other =>
      rw [hresolve] at h
      cases h
      rw [evaluate, hresolve, failAfter_nil]
      rfl
    | ok info =>
      rw [hresolve] at h
      rw [evaluate_call_of_resolve hresolve,
        evaluateAll_of_validateAll_error (fun e he => harguments e he) h, failAfter_bind]

/-- The walk over operands with an unusable call after them fails with the error of that call, unless
an operand fails before. -/
theorem result_failAfter_eq_iff {α : Type} (bindings : Bindings T) (operands : List (Expr T)) :
    (failAfter functions bindings operands error : Eval T α).result = .error error ↔
      ∀ other, (evaluateAll functions bindings operands).result = .error other →
        other = error := by
  rw [failAfter, Eval.result_bind]
  cases (evaluateAll functions bindings operands).result with
  | ok values => exact ⟨nofun, fun _ => rfl⟩
  | error other =>
    refine ⟨fun h found hfound => ?_, fun h => ?_⟩
    · cases h
      cases hfound
      rfl
    · rw [h other rfl]
      rfl

end Expr

namespace Backend

/-- A build, and an evaluation of what it yields. -/
def buildAndEvaluate (backend : Backend) (functions : FunctionRegistry T) (e : Expr T)
    (bindings : Bindings T) : Eval T T := do
  let evaluator ← Eval.ofExcept (backend.build functions e)
  evaluator bindings

variable {functions : FunctionRegistry T} {e : Expr T}

theorem execute_compiled_eq (bindings : Bindings T) :
    compiled.execute functions e bindings =
      interpreted.buildAndEvaluate functions e bindings := by
  rw [buildAndEvaluate, ← build_compiled_eq]
  rfl

theorem execute_bytecode_cases (bindings : Bindings T) :
    bytecode.execute functions e bindings = interpreted.buildAndEvaluate functions e bindings ∨
      bytecode.execute functions e bindings = throw (.programTooLarge maxOperand) ∧
        e.Oversized functions := by
  rcases build_bytecode_cases functions e with hbuild | ⟨hbuild, hoversized⟩
  · left
    rw [buildAndEvaluate, ← hbuild]
    rfl
  · right
    refine ⟨?_, hoversized⟩
    change Eval.ofExcept (bytecode.build functions e) >>= _ = _
    rw [hbuild]
    rfl

/-- Without an unusable call, a walk is what a build and an evaluation come to. -/
theorem execute_interpreted_of_valid (bindings : Bindings T)
    (h : e.checkDepth = .ok () → e.validate functions = .ok ()) :
    interpreted.execute functions e bindings =
      interpreted.buildAndEvaluate functions e bindings := by
  rw [buildAndEvaluate, execute, build]
  cases hdepth : e.checkDepth with
  | error error => rfl
  | ok _ =>
    rw [h hdepth]
    rfl

/-- With an unusable call, a build fails for it and a walk comes to it at the latest. -/
theorem execute_interpreted_of_invalid {error : FormulaError} (bindings : Bindings T)
    (hdepth : e.checkDepth = .ok ()) (hinvalid : e.validate functions = .error error) :
    interpreted.execute functions e bindings =
        Expr.failAfter functions bindings (e.reached functions) error ∧
      interpreted.buildAndEvaluate functions e bindings = throw error := by
  refine ⟨?_, ?_⟩
  · rw [execute, hdepth, ← Expr.evaluate_of_validate_error bindings hinvalid]
    rfl
  · rw [buildAndEvaluate, build, hdepth, hinvalid]
    rfl

/-- **One evaluation of an expression.** Closures do what building for the walk and then walking does,
and so do stack programs that are not too large. The walk without a build has the same result exactly
if no operand that it reaches before an unusable call fails with an error of its own. -/
theorem execute_agrees_iff (functions : FunctionRegistry T) (e : Expr T) (bindings : Bindings T) :
    compiled.execute functions e bindings =
        interpreted.buildAndEvaluate functions e bindings ∧
      (bytecode.execute functions e bindings = compiled.execute functions e bindings ∨
        bytecode.execute functions e bindings = throw (.programTooLarge maxOperand) ∧
          e.Oversized functions) ∧
      ((interpreted.execute functions e bindings).result =
          (compiled.execute functions e bindings).result ↔
        (e.checkDepth = .ok () → ∀ error, e.validate functions = .error error →
          ∀ other, (Expr.evaluateAll functions bindings (e.reached functions)).result =
            .error other → other = error)) := by
  rw [execute_compiled_eq]
  refine ⟨rfl, execute_bytecode_cases bindings, ?_⟩
  by_cases hvalid : e.checkDepth = .ok () → e.validate functions = .ok ()
  · rw [execute_interpreted_of_valid bindings hvalid]
    refine iff_of_true rfl fun hdepth error herror => ?_
    rw [hvalid hdepth] at herror
    cases herror
  · obtain ⟨hdepth, hnot⟩ := Classical.not_imp.1 hvalid
    cases hinvalid : e.validate functions with
    | ok _ => exact absurd hinvalid hnot
    | error error =>
      obtain ⟨hwalk, hbuild⟩ := execute_interpreted_of_invalid bindings hdepth hinvalid
      have hthrow : (throw error : Eval T T).result = .error error := rfl
      rw [hwalk, hbuild, hthrow, Expr.result_failAfter_eq_iff]
      refine ⟨fun h _ found hfound => ?_, fun h => h hdepth error rfl⟩
      cases hfound
      exact h

/-- The sum of an unbound variable and a call of no function: the walk reports the variable, a closure
the function. -/
theorem execute_unbound_before_unknown :
    (interpreted.execute .empty (.binary .add (.var "x") (.call "f" []) : Expr Fixed) .empty).result =
        .error (.variableNotDefined "x") ∧
      (compiled.execute .empty (.binary .add (.var "x") (.call "f" []) : Expr Fixed) .empty).result =
        .error (.unknownFunction "f") := by
  have hdepth : (Expr.binary .add (.var "x") (.call "f" []) : Expr Fixed).checkDepth = .ok () :=
    Expr.checkDepth_eq_ok.2 (by decide)
  have hinvalid : (Expr.binary .add (.var "x") (.call "f" []) : Expr Fixed).validate .empty =
      .error (.unknownFunction "f") := rfl
  obtain ⟨hwalk, hbuild⟩ := execute_interpreted_of_invalid .empty hdepth hinvalid
  refine ⟨?_, ?_⟩
  · rw [hwalk]
    rfl
  · rw [execute_compiled_eq, hbuild]
    rfl

end Backend

end Formulary
