import Formulary.Number.Fixed.Instance
import Formulary.Proofs.Evaluation.Fold
import Formulary.Proofs.Formula.Backends

/-!
# Proofs/Formula/Folding — folding before a build

Building a folded expression fails where building the expression itself does, and yields an evaluator
with the same results: folding can only change which calls an evaluation makes, and how large a
program is.
-/

namespace Formulary

variable {T : Type}

/-- Builds that cannot be told apart by what they yield: the same error, or the same results for all
bindings. -/
def SameOutcome : Except FormulaError (Evaluator T) → Except FormulaError (Evaluator T) → Prop
  | .error error, .error error' => error = error'
  | .ok evaluator, .ok evaluator' =>
    ∀ bindings, (evaluator bindings).result = (evaluator' bindings).result
  | _, _ => False

variable [Numeric T]

namespace Backend

theorem sameOutcome_interpreted {functions : FunctionRegistry T} {e : Expr T}
    (hdepth : e.checkDepth = .ok ()) :
    SameOutcome (interpreted.build functions (Expr.folded functions e))
      (interpreted.build functions e) := by
  rw [build, build, hdepth, Expr.checkDepth_folded hdepth, Expr.validate_folded]
  cases e.validate functions with
  | error error => exact rfl
  | ok _ => exact fun bindings => Expr.result_evaluate_folded functions bindings e

/-- **Folding keeps the meaning of an expression**: what validation says, every result under every
bindings, and hence what each backend makes of an expression that is not too deep. The one exception
is a stack program that is too large, before or after folding, and the expression that it is lowered
from then needs a pool or a list of arguments that is too long for an operand. -/
theorem folding_preserves (functions : FunctionRegistry T) (e : Expr T) :
    (Expr.folded functions e).validate functions = e.validate functions ∧
      (∀ bindings, ((Expr.folded functions e).evaluate functions bindings).result =
        (e.evaluate functions bindings).result) ∧
      (e.checkDepth = .ok () → ∀ backend : Backend,
        SameOutcome (backend.build functions (Expr.folded functions e))
          (backend.build functions e) ∨
        backend = bytecode ∧
          (bytecode.build functions (Expr.folded functions e) =
              .error (.programTooLarge maxOperand) ∧ (Expr.folded functions e).Oversized functions ∨
            bytecode.build functions e = .error (.programTooLarge maxOperand) ∧
              e.Oversized functions)) := by
  refine ⟨Expr.validate_folded functions e,
    fun bindings => Expr.result_evaluate_folded functions bindings e, ?_⟩
  intro hdepth backend
  have hsame : SameOutcome (interpreted.build functions (Expr.folded functions e))
      (interpreted.build functions e) := sameOutcome_interpreted hdepth
  cases backend with
  | interpreted => exact .inl hsame
  | compiled =>
    left
    rw [build_compiled_eq, build_compiled_eq]
    exact hsame
  | bytecode =>
    rcases build_bytecode_cases functions (Expr.folded functions e) with hfolded | hfolded
    · rcases build_bytecode_cases functions e with hbuild | hbuild
      · left
        rw [hfolded, hbuild]
        exact hsame
      · exact .inr ⟨rfl, .inr hbuild⟩
    · exact .inr ⟨rfl, .inl hfolded⟩

/-- The sum of one and two is not too deep, and the closures of it and of three agree. -/
theorem folding_preserves_sum :
    (Expr.binary .add (.int 1) (.int 2) : Expr Fixed).checkDepth = .ok () ∧
      SameOutcome
        (compiled.build .empty (Expr.folded .empty (.binary .add (.int 1) (.int 2) : Expr Fixed)))
        (compiled.build .empty (.binary .add (.int 1) (.int 2))) := by
  have hdepth : (Expr.binary .add (.int 1) (.int 2) : Expr Fixed).checkDepth = .ok () :=
    Expr.checkDepth_eq_ok.2 (by decide)
  refine ⟨hdepth, ?_⟩
  rcases (folding_preserves .empty _).2.2 hdepth .compiled with hsame | ⟨hbackend, _⟩
  · exact hsame
  · cases hbackend

end Backend

end Formulary
