import Formulary.Proofs.Engine.Registration
import Formulary.Proofs.Evaluation.Rewrites
import Formulary.Proofs.Formula.Backends
import Formulary.Proofs.Formula.Scope

/-!
# Proofs/Engine/Inlining — constants in an expression and constants in its bindings

The value of a constant gets into an evaluation in two ways: the parser writes it where the name stood,
and a formula adds it to the bindings. For constants that cannot be overwritten both come to the same,
since their names cannot be bound (`Scope.get?_of_protected`). An optimizer folds the one and not the
other, and that does not show either: it keeps results, calls and depth for whatever it is given.
-/

namespace Formulary

open Text

variable {T : Type}

/-! ## Names and values of constants -/

/-- A variable that names a constant which cannot be overwritten, and the value of this constant. -/
inductive Expr.Inlines (constants : ConstantRegistry T) : Expr T → Expr T → Prop where
  | constant {name : String} {info : ConstantInfo T} : constants.protected? name = some info →
    Inlines constants (.var name) (.const info.value)

namespace Expr.Inlines

variable {functions : FunctionRegistry T} {e e' : Expr T}

theorem height_eq {constants : ConstantRegistry T} (h : Inlines constants e e') :
    e'.height = e.height := by
  cases h
  rfl

theorem validate_eq {constants : ConstantRegistry T} (h : Inlines constants e e') :
    e'.validate functions = e.validate functions := by
  cases h
  rfl

theorem result_eq [Numeric T] {scope : Scope T} {bindings prepared : Bindings T}
    (hprepare : scope.prepare bindings = .ok prepared) (h : Inlines scope.constants e e') :
    (e'.evaluate functions prepared).result = (e.evaluate functions prepared).result := by
  cases h with
  | constant hinfo =>
    rw [evaluate, evaluate, Scope.get?_of_protected hprepare hinfo]
    rfl

end Expr.Inlines

/-! ## Formulas that evaluate alike -/

/-- Builds that no evaluation can tell apart: they fail with the same error, or yield formulas with the
same value or the same error for all variables and under all bindings. -/
inductive SameFormula :
    Except FormulaError (Formula T) → Except FormulaError (Formula T) → Prop where
  | failed (error : FormulaError) : SameFormula (.error error) (.error error)
  | built {formula formula' : Formula T} :
    (∀ vars, (formula.evaluate vars).result = (formula'.evaluate vars).result) →
      (∀ bindings, (formula.evaluateBindings bindings).result =
        (formula'.evaluateBindings bindings).result) →
      SameFormula (.ok formula) (.ok formula')

/-- Evaluators that agree on all bindings that their scope accepts. -/
theorem sameFormula_of_prepared {scope : Scope T} {evaluator evaluator' : Evaluator T}
    (h : ∀ bindings prepared, scope.prepare bindings = .ok prepared →
      (evaluator prepared).result = (evaluator' prepared).result) :
    SameFormula (.ok ((Formula.ofEvaluator evaluator).withScope scope))
      (.ok ((Formula.ofEvaluator evaluator').withScope scope)) := by
  have hbindings : ∀ bindings,
      (((Formula.ofEvaluator evaluator).withScope scope).evaluateBindings bindings).result =
        (((Formula.ofEvaluator evaluator').withScope scope).evaluateBindings bindings).result := by
    intro bindings
    simp only [Formula.evaluateBindings, Formula.withScope, Formula.ofEvaluator, Eval.result_bind,
      Eval.result_ofExcept]
    cases hprepare : scope.prepare bindings with
    | error error => rfl
    | ok prepared => exact h bindings prepared hprepare
  refine .built (fun vars => ?_) hbindings
  simp only [Formula.evaluate, Eval.result_bind, hbindings]

/-- Names and values of constants are equally deep. -/
theorem Expr.checkDepth_of_inlines {constants : ConstantRegistry T} {e e' : Expr T}
    (h : e.Rewrites (Inlines constants) e') : e'.checkDepth = e.checkDepth := by
  have hle := h.height_le fun _ _ hrule => Nat.le_of_eq (Inlines.height_eq hrule)
  have hge := h.symm.height_le fun _ _ hrule => Nat.le_of_eq (Inlines.height_eq hrule).symm
  rw [checkDepth, checkDepth, depth_eq_height, depth_eq_height, Nat.le_antisymm hle hge]

/-! ## What an engine builds -/

namespace Engine

variable {e e' : Expr T}

/-- What formulas are completed from. -/
def scope (engine : Engine T) : Scope T :=
  ⟨engine.constants, engine.functions⟩

/-- The expression that is built for one. -/
def optimized (engine : Engine T) (e : Expr T) : Expr T :=
  match engine.optimizer with
  | some optimize => (optimize engine.functions e).value
  | none => e

variable [Numeric T] {engine : Engine T}

theorem result_buildFresh (engine : Engine T) (e : Expr T) :
    (engine.buildFresh e).result =
      (engine.options.backend.build engine.functions (engine.optimized e)).map fun evaluator =>
        (Formula.ofEvaluator evaluator).withScope engine.scope := by
  cases hoptimizer : engine.optimizer with
  | none =>
    simp only [buildFresh, optimized, hoptimizer, pure_bind, Eval.result_bind, Eval.result_ofExcept]
    cases engine.options.backend.build engine.functions e <;> rfl
  | some optimize =>
    have hlift : (liftM (optimize engine.functions e) : Eval T (Expr T)).result =
        .ok (optimize engine.functions e).value := rfl
    simp only [buildFresh, optimized, hoptimizer, Eval.result_bind, Eval.result_ofExcept, hlift]
    change (engine.options.backend.build engine.functions (optimize engine.functions e).value >>=
      fun _ => _) = _
    cases engine.options.backend.build engine.functions (optimize engine.functions e).value <;> rfl

/-- The optimizer is the one that computes closed subexpressions, or there is none. -/
def Folds (engine : Engine T) : Prop :=
  engine.optimizer = none ∨ engine.optimizer = some Expr.fold

namespace Folds

theorem optimized_eq (h : engine.Folds) (e : Expr T) :
    engine.optimized e = e ∨ engine.optimized e = Expr.folded engine.functions e := by
  rcases h with h | h
  · left
    rw [optimized, h]
  · right
    rw [optimized, h]
    rfl

theorem validate_optimized (h : engine.Folds) (e : Expr T) :
    (engine.optimized e).validate engine.functions = e.validate engine.functions := by
  rcases h.optimized_eq e with heq | heq <;> rw [heq]
  exact Expr.validate_folded engine.functions e

theorem result_optimized (h : engine.Folds) (e : Expr T) (bindings : Bindings T) :
    ((engine.optimized e).evaluate engine.functions bindings).result =
      (e.evaluate engine.functions bindings).result := by
  rcases h.optimized_eq e with heq | heq <;> rw [heq]
  exact Expr.result_evaluate_folded engine.functions bindings e

theorem checkDepth_optimized (h : engine.Folds) (hdepth : e.checkDepth = .ok ()) :
    (engine.optimized e).checkDepth = .ok () := by
  rcases h.optimized_eq e with heq | heq <;> rw [heq]
  · exact hdepth
  · exact Expr.checkDepth_folded hdepth

/-- The walk that is built for an expression of acceptable depth. -/
theorem build_interpreted (h : engine.Folds) (hdepth : e.checkDepth = .ok ()) :
    Backend.interpreted.build engine.functions (engine.optimized e) =
      (e.validate engine.functions).map fun _ bindings =>
        (engine.optimized e).evaluate engine.functions bindings := by
  rw [Backend.build, h.checkDepth_optimized hdepth, h.validate_optimized]
  cases e.validate engine.functions <;> rfl

end Folds

/-- **Inlining before a build** cannot be seen from it, but for the size of a stack program. -/
theorem sameFormula_buildFresh (hfolds : engine.Folds)
    (h : e.Rewrites (Expr.Inlines engine.constants) e') (hdepth : e.checkDepth = .ok ()) :
    SameFormula (engine.buildFresh e).result (engine.buildFresh e').result ∨
      engine.options.backend = .bytecode ∧
        ((engine.buildFresh e).result = .error (.programTooLarge maxOperand) ∧
            (engine.optimized e).Oversized engine.functions ∨
          (engine.buildFresh e').result = .error (.programTooLarge maxOperand) ∧
            (engine.optimized e').Oversized engine.functions) := by
  have hdepth' : e'.checkDepth = .ok () := (Expr.checkDepth_of_inlines h).trans hdepth
  have hvalid : e'.validate engine.functions = e.validate engine.functions :=
    h.validate_eq fun _ _ => Expr.Inlines.validate_eq
  rw [result_buildFresh, result_buildFresh]
  rcases Backend.build_cases engine.options.backend engine.functions (engine.optimized e) with
    hbuild | ⟨hbytecode, hlarge, hoversized⟩
  · rcases Backend.build_cases engine.options.backend engine.functions (engine.optimized e') with
      hbuild' | ⟨hbytecode, hlarge, hoversized⟩
    · left
      rw [hbuild, hbuild', hfolds.build_interpreted hdepth, hfolds.build_interpreted hdepth', hvalid]
      cases e.validate engine.functions with
      | error error => exact .failed error
      | ok _ =>
        refine sameFormula_of_prepared fun bindings prepared hprepare => ?_
        rw [hfolds.result_optimized, hfolds.result_optimized]
        have hrule : ∀ a a', Expr.Inlines engine.scope.constants a a' →
            (a'.evaluate engine.functions prepared).result =
              (a.evaluate engine.functions prepared).result :=
          fun _ _ => Expr.Inlines.result_eq hprepare
        exact (h.result_eq hrule).symm
    · exact .inr ⟨hbytecode, .inr ⟨by rw [hlarge]; rfl, hoversized⟩⟩
  · exact .inr ⟨hbytecode, .inl ⟨by rw [hlarge]; rfl, hoversized⟩⟩

/-- A valid expression that is not too deep is built. -/
theorem exists_formula_of_valid [Legible T] (hsound : engine.Sound) (hfolds : engine.Folds)
    (hdepth : e.checkDepth = .ok ()) (hvalid : e.validate engine.functions = .ok ()) :
    (∃ formula, (perform (buildExpr e) engine).1 = .ok formula) ∨
      engine.options.backend = .bytecode ∧
        (perform (buildExpr e) engine).1 = .error (.programTooLarge maxOperand) ∧
          (engine.optimized e).Oversized engine.functions := by
  have houtcome : (perform (buildExpr e) engine).1 = (engine.buildFresh e).result := by
    rw [(yields_buildExpr hsound e).outcome_eq, hdepth]
    rfl
  rw [houtcome, result_buildFresh]
  rcases engine.options.backend.build_of_valid (hfolds.checkDepth_optimized hdepth)
    ((hfolds.validate_optimized e).trans hvalid) with ⟨evaluator, hbuild⟩ | ⟨hbytecode, hlarge⟩
  · exact .inl ⟨_, by rw [hbuild]; rfl⟩
  · exact .inr ⟨hbytecode, by rw [hlarge.1]; rfl, hlarge.2⟩

/-! ## Sessions -/

/-- Two states of one engine: the cache and the registries may change, settings and optimizer do
not. -/
structure SameSettings (engine engine' : Engine T) : Prop where
  options_eq : engine'.options = engine.options
  optimizer_eq : engine'.optimizer = engine.optimizer

namespace SameSettings

omit [Numeric T] in
theorem refl (engine : Engine T) : SameSettings engine engine :=
  ⟨rfl, rfl⟩

omit [Numeric T] in
theorem trans {engine engine' engine'' : Engine T} (h : SameSettings engine engine')
    (h' : SameSettings engine' engine'') : SameSettings engine engine'' :=
  ⟨h'.options_eq.trans h.options_eq, h'.optimizer_eq.trans h.optimizer_eq⟩

end SameSettings

theorem Yields.sameSettings {α : Type} {m : EngineM T α} {outcome : Except FormulaError α}
    (h : Yields engine m outcome) : engine.SameSettings (perform m engine).2 := by
  rw [h.engine_eq]
  exact ⟨rfl, rfl⟩

end Engine

namespace Session

theorem sameSettings_evaluateStored (s : Session T) (index : Nat) (f : Formula T → Eval T T) :
    s.engine.SameSettings (s.evaluateStored index f).2.engine := by
  rw [evaluateStored]
  split
  · exact .refl s.engine
  · exact .refl s.engine

variable [Numeric T]

theorem sameSettings_registration {s : Session T} {request : Request T} {r : Registration T}
    (h : request.registration? = some r) : s.engine.SameSettings (s.step request).2.engine := by
  have hregisters := registers_step s h
  by_cases hrefused : r.Refused s.engine
  · rw [hregisters.unchanged hrefused]
    exact .refl s.engine
  · obtain ⟨-, -, henters⟩ := hregisters.enters hrefused
    exact ⟨henters.options_eq, henters.optimizer_eq⟩

/-- No request changes a setting. -/
theorem sameSettings_step [Legible T] {s : Session T} (h : s.engine.Sound) (request : Request T) :
    s.engine.SameSettings (s.step request).2.engine := by
  cases request with
  | calculate text vars => exact (Engine.yields_calculate h text vars).sameSettings
  | execute e vars => exact (Engine.yields_execute h e vars).sameSettings
  | build text => exact (Engine.yields_build h text).sameSettings
  | buildExpr e => exact (Engine.yields_buildExpr h e).sameSettings
  | evaluate index vars => exact sameSettings_evaluateStored s index _
  | evaluateBindings index bindings => exact sameSettings_evaluateStored s index _
  | registerFunction name callable overwritable => exact sameSettings_registration rfl
  | registerSlice name arity label body overwritable => exact sameSettings_registration rfl
  | registerConstant name value overwritable => exact sameSettings_registration rfl
  | clearCache => exact ⟨rfl, rfl⟩

/-- **No session does.** -/
theorem sameSettings_run [Legible T] {s : Session T} (h : s.engine.Sound)
    (requests : List (Request T)) : s.engine.SameSettings (s.run requests).2.engine := by
  induction requests generalizing s with
  | nil => exact .refl s.engine
  | cons request rest ih =>
    exact (sameSettings_step h request).trans (ih (mirrors_step h request).sound)

theorem options_start (options : Options) (optimizer : Optimizer T) :
    (start options optimizer).engine.options = options := by
  rw [start, Engine.withOptimizer]

/-- An engine that is made with the standard optimizer has it or none. -/
theorem folds_start (options : Options) : (start options (Expr.fold (T := T))).engine.Folds := by
  rw [Engine.Folds, start, Engine.withOptimizer]
  cases options.optimizerEnabled with
  | true => exact .inr rfl
  | false => exact .inl rfl

/-- **Inlined constants and constants of the scope agree.** In every state of every session, whatever
the settings, take an expression and replace some of the names of constants in it that cannot be
overwritten by their values. Building the one and building the other fail with the same error, or yield
formulas that evaluate alike. The exception is a stack program that is too large: what the optimizer
made of the expression then needs a pool or a list of arguments that is too long for an operand. -/
theorem inlining_agrees [Legible T] (options : Options) (requests : List (Request T))
    (e e' : Expr T) :
    let engine := ((start options Expr.fold).run requests).2.engine
    let outcome := (Engine.perform (Engine.buildExpr e) engine).1
    let outcome' := (Engine.perform (Engine.buildExpr e') engine).1
    e.Rewrites (Expr.Inlines engine.constants) e' →
      SameFormula outcome outcome' ∨
        options.backend = .bytecode ∧
          (outcome = .error (.programTooLarge maxOperand) ∧
              (engine.optimized e).Oversized engine.functions ∨
            outcome' = .error (.programTooLarge maxOperand) ∧
              (engine.optimized e').Oversized engine.functions) := by
  intro engine outcome outcome' h
  have hstart := sound_start options (Expr.fold (T := T))
  have hsound : engine.Sound := (mirrors_run requests hstart).2
  have hsettings := sameSettings_run hstart requests
  have hfolds : engine.Folds := by
    rw [Engine.Folds, hsettings.optimizer_eq]
    exact folds_start options
  have houtcome : outcome = (do e.checkDepth; (engine.buildFresh e).result) :=
    (Engine.yields_buildExpr hsound e).outcome_eq
  have houtcome' : outcome' = (do e'.checkDepth; (engine.buildFresh e').result) :=
    (Engine.yields_buildExpr hsound e').outcome_eq
  rw [houtcome, houtcome', Expr.checkDepth_of_inlines h,
    ← hsettings.options_eq.trans (options_start options _)]
  cases hdepth : e.checkDepth with
  | error error => exact .inl (.failed error)
  | ok _ => exact Engine.sameFormula_buildFresh hfolds h hdepth

/-- A new engine builds both the product with the name `pi` and that with its value, and one formula is
as good as the other. -/
theorem inlining_agrees_pi :
    let engine := (start (T := Fixed) .default Expr.fold).engine
    let outcome := (Engine.perform (Engine.buildExpr (.binary .mul (.int 2) (.var "Pi"))) engine).1
    let outcome' :=
      (Engine.perform (Engine.buildExpr (.binary .mul (.int 2) (.const Numeric.pi))) engine).1
    SameFormula outcome outcome' ∧
      (∃ formula, outcome = .ok formula) ∧ ∃ formula', outcome' = .ok formula' := by
  intro engine outcome outcome'
  have hget := Builtin.get?_constantRegistry ("pi", (Numeric.pi : Fixed))
    (List.mem_cons_of_mem _ List.mem_cons_self)
  have hprotected : engine.constants.protected? "Pi" = some (.ofValue "pi" Numeric.pi false) := by
    have hfold : foldName "Pi" = foldName "pi" := by decide
    rw [ConstantRegistry.protected?, ConstantRegistry.get?, hfold]
    exact Option.filter_eq_some_iff.2 ⟨hget, rfl⟩
  have hrewrites : (Expr.binary .mul (.int 2) (.var "Pi")).Rewrites (Expr.Inlines engine.constants)
      (.binary .mul (.int 2) (.const Numeric.pi)) :=
    .binary .mul (.refl _) (.rule (.constant hprotected))
  have hsound : engine.Sound := sound_start .default Expr.fold
  have hfolds : engine.Folds := folds_start .default
  have hbuilt : ∀ e : Expr Fixed, e.height = 2 → e.validate engine.functions = .ok () →
      ∃ formula, (Engine.perform (Engine.buildExpr e) engine).1 = .ok formula := by
    intro e hheight hvalid
    have hdepth : e.checkDepth = .ok () := Expr.checkDepth_eq_ok.2 (hheight ▸ by decide)
    rcases Engine.exists_formula_of_valid hsound hfolds hdepth hvalid with h | ⟨hbytecode, -⟩
    · exact h
    · cases hbytecode
  refine ⟨?_, hbuilt _ rfl rfl, hbuilt _ rfl rfl⟩
  rcases inlining_agrees .default [] _ _ hrewrites with hsame | ⟨hbytecode, -⟩
  · exact hsame
  · cases hbytecode

end Session

end Formulary
