import Formulary.Cache.Formula
import Formulary.Evaluation.Fold
import Formulary.Function.Builtin
import Formulary.Options
import Formulary.Parser.Basic

/-!
# Engine — reading, building, caching and evaluating formulas

An engine owns its registries of functions and constants. A formula is read, optimized and built
against them once and then found in the cache; every successful registration empties the cache, so
that no formula outlives the registries it was built against there. A formula handed out keeps them.
-/

namespace Formulary

/-- Rewrites expressions before they are built, without a change to what they evaluate to. -/
abbrev Optimizer (T : Type) : Type :=
  FunctionRegistry T → Expr T → Traced T (Expr T)

/-- Settings, registries and cache. -/
structure Engine (T : Type) where
  options : Options
  optimizer : Option (Optimizer T)
  functions : FunctionRegistry T
  constants : ConstantRegistry T
  cache : Option (FormulaCache T)

/-- Operations of an engine: they may fail, change the engine and call functions. -/
abbrev EngineM (T : Type) : Type → Type :=
  ExceptT FormulaError (StateT (Engine T) (Traced T))

namespace Engine

variable {T : Type}

/-- An engine with the built-in functions and constants and an optimizer, which settings may switch
off. -/
def withOptimizer [Numeric T] (options : Options) (optimizer : Optimizer T) : Engine T where
  options
  optimizer := if options.optimizerEnabled then some optimizer else none
  functions := Builtin.functionRegistry
  constants := Builtin.constantRegistry
  cache := if options.cacheEnabled then some (.empty options.cacheCapacity) else none

/-- An engine that computes closed subexpressions beforehand. -/
def ofOptions [Numeric T] (options : Options) : Engine T :=
  withOptimizer options Expr.fold

/-- What the cache has counted, if there is one. -/
def cacheStats (engine : Engine T) : Option CacheStats :=
  engine.cache.map (·.stats)

/-- The engine with an empty cache. -/
def clearCache (engine : Engine T) : Engine T :=
  { engine with cache := engine.cache.map (·.clear) }

/-- The form shown for diagnosis. -/
def debug (engine : Engine T) : String :=
  let cache :=
    match engine.cache with
    | some cache => "Some(" ++ cache.debug ++ ")"
    | none => "None"
  "CalculationEngine \x7b options: " ++ engine.options.debug ++ ", cache: " ++ cache ++ ", .. \x7d"

/-! ## Building -/

variable [Numeric T]

/-- Optimizes and builds an expression against the registries as they are. -/
def buildFresh (engine : Engine T) (e : Expr T) : Eval T (Formula T) := do
  let e ←
    match engine.optimizer with
    | some optimize => optimize engine.functions e
    | none => pure e
  let evaluator ← Eval.ofExcept (engine.options.backend.build engine.functions e)
  pure ((Formula.ofEvaluator evaluator).withScope ⟨engine.constants, engine.functions⟩)

/-- Reads, optimizes and builds a formula text against the registries as they are. -/
def buildTextFresh (engine : Engine T) (text : String) : Eval T (Formula T) := do
  let e ← Eval.ofExcept
    (Parser.parse engine.options.locale engine.functions engine.constants text)
  engine.buildFresh e

omit [Numeric T] in
/-- The formula of a key, from the cache or from a build. -/
def cached (key : FormulaKey) (build : Eval T (Formula T)) : EngineM T (Formula T) :=
  ExceptT.mk do
    match (← get).cache with
    | none => build.run
    | some cache =>
      let lifted : ExceptT FormulaError (StateT (FormulaCache T) (Traced T)) (Formula T) :=
        ExceptT.mk (liftM build.run)
      let (result, cache) ← (Cache.getOrBuild key lifted).run.run cache
      modify fun engine => { engine with cache := some cache }
      pure result

/-- The formula of a text. -/
def build (text : String) : EngineM T (Formula T) := do
  cached (.source text) ((← get).buildTextFresh text)

/-- The formula of an expression. -/
def buildExpr (e : Expr T) : EngineM T (Formula T) := do
  e.checkDepth
  cached (.ofExpr e) ((← get).buildFresh e)

omit [Numeric T] in
/-- The value of a formula under a caller's variables. -/
def evaluate (formula : Formula T) (vars : NameMap T) : EngineM T T :=
  ExceptT.mk (liftM (formula.evaluate vars).run)

omit [Numeric T] in
/-- The value of a formula under bindings. -/
def evaluateBindings (formula : Formula T) (bindings : Bindings T) : EngineM T T :=
  ExceptT.mk (liftM (formula.evaluateBindings bindings).run)

/-- The value of a formula text under a caller's variables. -/
def calculate (text : String) (vars : NameMap T) : EngineM T T := do
  evaluate (← build text) vars

/-- The value of an expression under a caller's variables. -/
def execute (e : Expr T) (vars : NameMap T) : EngineM T T := do
  evaluate (← buildExpr e) vars

/-! ## Registering -/

section Registering

omit [Numeric T]

/-- Replaces the functions and empties the cache. -/
def setFunctions (functions : FunctionRegistry T) : EngineM T Unit :=
  modify fun engine => { engine with functions }.clearCache

/-- Replaces the constants and empties the cache. -/
def setConstants (constants : ConstantRegistry T) : EngineM T Unit :=
  modify fun engine => { engine with constants }.clearCache

/-- Registers a function. -/
def registerFunction (info : FunctionInfo T) : EngineM T Unit := do
  setFunctions (← (← get).functions.register info)

/-- Registers a constant. -/
def registerConstant (info : ConstantInfo T) : EngineM T Unit := do
  setConstants (← (← get).constants.register info)

end Registering

end Engine

end Formulary
