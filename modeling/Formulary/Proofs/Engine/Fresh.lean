import Formulary.Engine
import Formulary.Proofs.Cache.Serve
import Formulary.Proofs.Expr.Key

/-!
# Proofs/Engine/Fresh — formulas from the cache are fresh

A cached formula is `Fresh` if building it from scratch against the registries as they are would yield
it. An engine is `Sound` if its cache holds fresh formulas only. Then its operations yield what they
would without a cache, and change nothing but the cache (`Yields`); registering empties it.
-/

namespace Formulary.Engine

variable {T α β : Type}

/-! ## Performing an operation -/

/-- The outcome of an operation and the engine after it. -/
def perform (m : EngineM T α) (engine : Engine T) : Except FormulaError α × Engine T :=
  (m.run.run engine).value

theorem perform_bind (m : EngineM T α) (f : α → EngineM T β) (engine : Engine T) :
    perform (m >>= f) engine =
      match perform m engine with
      | (.ok a, engine) => perform (f a) engine
      | (.error error, engine) => (.error error, engine) := by
  unfold perform
  rw [ExceptT.run_bind, StateT.run_bind, Traced.value_bind]
  generalize (m.run.run engine).value = p
  obtain ⟨result, engine⟩ := p
  cases result <;> rfl

theorem perform_get_bind (f : Engine T → EngineM T β) (engine : Engine T) :
    perform (do let current ← get; f current) engine = perform (f engine) engine := by
  rw [perform_bind]
  rfl

/-- A check before an operation. -/
theorem perform_check_bind (check : Except FormulaError Unit) (m : EngineM T β)
    (engine : Engine T) : perform (do check; m) engine =
      match check with
      | .ok _ => perform m engine
      | .error error => (.error error, engine) := by
  rw [perform_bind]
  cases check <;> rfl

/-- The engine with its cache switched off. -/
def withoutCache (engine : Engine T) : Engine T :=
  { engine with options := { engine.options with cacheEnabled := false }, cache := none }

theorem perform_cached_none {engine : Engine T} (h : engine.cache = none) (key : FormulaKey)
    (build : Eval T (Formula T)) : perform (cached key build) engine = (build.result, engine) := by
  simp only [perform, cached, ExceptT.run_mk, StateT.run_bind, StateT.run_get, pure_bind, h]
  rfl

theorem perform_cached_some {engine : Engine T} {cache : FormulaCache T}
    (h : engine.cache = some cache) (key : FormulaKey) (build : Eval T (Formula T)) :
    perform (cached key build) engine =
      ((cache.serve key build.result).1,
        { engine with cache := some (cache.serve key build.result).2 }) := by
  rw [← Cache.value_getOrBuild]
  simp only [perform, cached, ExceptT.run_mk, StateT.run_bind, StateT.run_get, pure_bind, h]
  rfl

/-! ## Fresh formulas -/

variable [Numeric T]

/-- Whether building a formula from scratch would yield it. A key of an expression stands for every
expression that has it. -/
def Fresh (engine : Engine T) : FormulaKey → Formula T → Prop
  | .source text, formula => (engine.buildTextFresh text).result = .ok formula
  | .tree key, formula => ∀ e : Expr T, e.key = key → (engine.buildFresh e).result = .ok formula

/-- Whether the cache holds fresh formulas only. -/
def Sound (engine : Engine T) : Prop :=
  ∀ cache, engine.cache = some cache → cache.Holds engine.Fresh

/-- Only the registries and settings matter to a build. -/
theorem fresh_with_cache (engine : Engine T) (cache : Option (FormulaCache T)) :
    Fresh { engine with cache } = engine.Fresh := by
  funext key formula
  cases key <;> rfl

theorem sound_of_cache_eq_none {engine : Engine T} (h : engine.cache = none) : Sound engine := by
  intro cache hcache
  rw [h] at hcache
  cases hcache

theorem sound_clearCache (engine : Engine T) : Sound engine.clearCache := by
  intro cache hcache
  obtain ⟨old, _, rfl⟩ := Option.map_eq_some_iff.1 hcache
  exact Cache.holds_clear old

theorem sound_withOptimizer (options : Options) (optimizer : Optimizer T) :
    Sound (withOptimizer options optimizer) := by
  intro cache hcache
  simp only [withOptimizer] at hcache
  split at hcache
  · cases hcache
    exact Cache.holds_empty _
  · cases hcache

/-! ## Operations -/

/-- An operation with an outcome, which leaves a sound engine that differs in its cache alone. -/
structure Yields (engine : Engine T) (m : EngineM T α) (outcome : Except FormulaError α) : Prop where
  outcome_eq : (perform m engine).1 = outcome
  engine_eq : (perform m engine).2 = { engine with cache := (perform m engine).2.cache }
  idle : engine.cache = none → (perform m engine).2.cache = none
  sound : Sound (perform m engine).2

theorem yields_cached {engine : Engine T} (h : Sound engine) {key : FormulaKey}
    {build : Eval T (Formula T)}
    (hkey : ∀ formula, engine.Fresh key formula ↔ build.result = .ok formula) :
    Yields engine (cached key build) build.result := by
  cases hcache : engine.cache with
  | none =>
    have hperform := perform_cached_none hcache key build
    refine ⟨?_, ?_, ?_, ?_⟩
    · rw [hperform]
    · rw [hperform]
    · intro _
      rw [hperform, hcache]
    · rw [hperform]
      exact h
  | some cache =>
    have hperform := perform_cached_some hcache key build
    have hholds := h cache hcache
    refine ⟨?_, ?_, ?_, ?_⟩
    · rw [hperform]
      exact Cache.serve_eq hholds fun formula => (hkey formula).1
    · rw [hperform]
    · rw [hcache]
      intro hnone
      cases hnone
    · rw [hperform]
      intro served hserved
      cases hserved
      rw [fresh_with_cache]
      exact hholds.serve fun formula => (hkey formula).2

/-- Operations that are performed alike yield alike. -/
theorem Yields.congr {engine : Engine T} {m m' : EngineM T α} {outcome : Except FormulaError α}
    (h : Yields engine m outcome) (hperform : perform m' engine = perform m engine) :
    Yields engine m' outcome := by
  obtain ⟨houtcome, hengine, hidle, hsound⟩ := h
  rw [← hperform] at houtcome hengine hidle hsound
  exact ⟨houtcome, hengine, hidle, hsound⟩

/-- An operation that leaves the engine as it is. -/
theorem yields_of_perform_eq {engine : Engine T} (h : Sound engine) {m : EngineM T α}
    {outcome : Except FormulaError α} (hperform : perform m engine = (outcome, engine)) :
    Yields engine m outcome := by
  refine ⟨?_, ?_, ?_, ?_⟩
  · rw [hperform]
  · rw [hperform]
  · intro hcache
    rw [hperform, hcache]
  · rw [hperform]
    exact h

theorem yields_build {engine : Engine T} (h : Sound engine) (text : String) :
    Yields engine (build text) (engine.buildTextFresh text).result := by
  have hkey : ∀ formula, engine.Fresh (.source text) formula ↔
      (engine.buildTextFresh text).result = .ok formula := fun _ => Iff.rfl
  refine (yields_cached h hkey).congr ?_
  rw [build, perform_get_bind]

/-- Different expressions have different keys, so the formula of a key is the one of the
expression. -/
theorem fresh_ofExpr [Legible T] (engine : Engine T) (e : Expr T) (formula : Formula T) :
    engine.Fresh (.ofExpr e) formula ↔ (engine.buildFresh e).result = .ok formula := by
  refine ⟨fun h => h e rfl, ?_⟩
  intro h f hkey
  rw [Expr.eq_of_key_eq hkey]
  exact h

theorem yields_buildExpr [Legible T] {engine : Engine T} (h : Sound engine) (e : Expr T) :
    Yields engine (buildExpr e) (do e.checkDepth; (engine.buildFresh e).result) := by
  cases hdepth : e.checkDepth with
  | error error =>
    refine yields_of_perform_eq h ?_
    rw [buildExpr, perform_check_bind, hdepth]
    rfl
  | ok _ =>
    refine (yields_cached h (fresh_ofExpr engine e)).congr ?_
    rw [buildExpr, perform_check_bind, hdepth, perform_get_bind]

/-- Evaluating a formula after it is found leaves the engine as it is. -/
theorem Yields.evaluate {engine : Engine T} {m : EngineM T (Formula T)}
    {outcome : Except FormulaError (Formula T)} (h : Yields engine m outcome) (vars : NameMap T) :
    Yields engine (do let formula ← m; Engine.evaluate formula vars)
      (do let formula ← outcome; (formula.evaluate vars).result) := by
  obtain ⟨houtcome, hengine, hidle, hsound⟩ := h
  have hperform : perform (do let formula ← m; Engine.evaluate formula vars) engine =
      (do let formula ← outcome; (formula.evaluate vars).result, (perform m engine).2) := by
    rw [perform_bind, ← houtcome]
    generalize perform m engine = p
    obtain ⟨result, after⟩ := p
    cases result <;> rfl
  refine ⟨?_, ?_, ?_, ?_⟩
  · rw [hperform]
  · rw [hperform]
    exact hengine
  · rw [hperform]
    exact hidle
  · rw [hperform]
    exact hsound

/-- **A calculation is what reading, building and evaluating from scratch yields.** -/
theorem yields_calculate {engine : Engine T} (h : Sound engine) (text : String)
    (vars : NameMap T) : Yields engine (calculate text vars)
      (do let formula ← engine.buildTextFresh text; formula.evaluate vars).result := by
  rw [Eval.result_bind]
  exact (yields_build h text).evaluate vars

/-- **An execution is what building and evaluating from scratch yields.** -/
theorem yields_execute [Legible T] {engine : Engine T} (h : Sound engine) (e : Expr T)
    (vars : NameMap T) : Yields engine (execute e vars)
      (do
        Eval.ofExcept e.checkDepth
        let formula ← engine.buildFresh e
        formula.evaluate vars : Eval T T).result := by
  rw [Eval.result_bind, Eval.result_ofExcept]
  have hyields := (yields_buildExpr h e).evaluate vars
  rw [bind_assoc] at hyields
  simp only [Eval.result_bind]
  exact hyields

/-! ## With and without a cache -/

/-- An operation that goes as it would without a cache, and leaves a sound engine. -/
structure Mirrors (engine : Engine T) (m : EngineM T α) : Prop where
  outcome_eq : (perform m engine).1 = (perform m engine.withoutCache).1
  engine_eq : (perform m engine).2.withoutCache = (perform m engine.withoutCache).2
  sound : Sound (perform m engine).2

/-- The outcome decides, since nothing but the cache changes. -/
theorem Yields.mirrors {engine : Engine T} {m : EngineM T α} {outcome : Except FormulaError α}
    (h : Yields engine m outcome) (h' : Yields engine.withoutCache m outcome) :
    Mirrors engine m := by
  refine ⟨h.outcome_eq.trans h'.outcome_eq.symm, ?_, h.sound⟩
  rw [h.engine_eq, h'.engine_eq, h'.idle rfl]
  rfl

theorem withOptimizer_withoutCache (options : Options) (optimizer : Optimizer T) :
    (withOptimizer options optimizer).withoutCache =
      withOptimizer { options with cacheEnabled := false } optimizer := by
  simp only [withOptimizer, withoutCache]
  rfl

theorem sound_withoutCache (engine : Engine T) : Sound engine.withoutCache :=
  sound_of_cache_eq_none rfl

theorem mirrors_build {engine : Engine T} (h : Sound engine) (text : String) :
    Mirrors engine (build text) :=
  (yields_build h text).mirrors (yields_build (sound_withoutCache engine) text)

theorem mirrors_buildExpr [Legible T] {engine : Engine T} (h : Sound engine) (e : Expr T) :
    Mirrors engine (buildExpr e) :=
  (yields_buildExpr h e).mirrors (yields_buildExpr (sound_withoutCache engine) e)

theorem mirrors_calculate {engine : Engine T} (h : Sound engine) (text : String)
    (vars : NameMap T) : Mirrors engine (calculate text vars) :=
  (yields_calculate h text vars).mirrors (yields_calculate (sound_withoutCache engine) text vars)

theorem mirrors_execute [Legible T] {engine : Engine T} (h : Sound engine) (e : Expr T)
    (vars : NameMap T) : Mirrors engine (execute e vars) :=
  (yields_execute h e vars).mirrors (yields_execute (sound_withoutCache engine) e vars)

/-- Changes a registry, unless the change is refused, and empties the cache. -/
def changeRegistry {ρ : Type} (change : Engine T → Except FormulaError ρ)
    (put : Engine T → ρ → Engine T) : EngineM T Unit := do
  let registry ← change (← get)
  modify fun engine => (put engine registry).clearCache

omit [Numeric T] in
theorem perform_changeRegistry {ρ : Type} (change : Engine T → Except FormulaError ρ)
    (put : Engine T → ρ → Engine T) (engine : Engine T) :
    perform (changeRegistry change put) engine =
      match change engine with
      | .ok registry => (.ok (), (put engine registry).clearCache)
      | .error error => (.error error, engine) := by
  rw [changeRegistry, perform_get_bind, perform_bind]
  cases change engine <;> rfl

/-- **A change of a registry leaves no formula behind** that was built before it. -/
theorem mirrors_changeRegistry {ρ : Type} {engine : Engine T} (h : Sound engine)
    {change : Engine T → Except FormulaError ρ} {put : Engine T → ρ → Engine T}
    (hchange : change engine.withoutCache = change engine)
    (hput : ∀ registry, (put engine registry).clearCache.withoutCache =
      (put engine.withoutCache registry).clearCache) :
    Mirrors engine (changeRegistry change put) := by
  have hperform := perform_changeRegistry change put engine
  have hbare := perform_changeRegistry change put engine.withoutCache
  rw [hchange] at hbare
  cases hresult : change engine with
  | ok registry =>
    rw [hresult] at hperform hbare
    refine ⟨?_, ?_, ?_⟩
    · rw [hperform, hbare]
    · rw [hperform, hbare]
      exact hput registry
    · rw [hperform]
      exact sound_clearCache _
  | error error =>
    rw [hresult] at hperform hbare
    refine ⟨?_, ?_, ?_⟩
    · rw [hperform, hbare]
    · rw [hperform, hbare]
    · rw [hperform]
      exact h

omit [Numeric T] in
theorem registerFunction_eq (info : FunctionInfo T) :
    registerFunction info =
      changeRegistry (·.functions.register info) fun engine functions =>
        { engine with functions } :=
  rfl

omit [Numeric T] in
theorem registerConstant_eq (info : ConstantInfo T) :
    registerConstant info =
      changeRegistry (·.constants.register info) fun engine constants =>
        { engine with constants } :=
  rfl

theorem mirrors_registerFunction {engine : Engine T} (h : Sound engine) (info : FunctionInfo T) :
    Mirrors engine (registerFunction info) := by
  rw [registerFunction_eq]
  exact mirrors_changeRegistry h rfl fun _ => rfl

theorem mirrors_registerConstant {engine : Engine T} (h : Sound engine) (info : ConstantInfo T) :
    Mirrors engine (registerConstant info) := by
  rw [registerConstant_eq]
  exact mirrors_changeRegistry h rfl fun _ => rfl

end Formulary.Engine
