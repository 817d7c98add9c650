import Formulary.Number.Fixed.Instance
import Formulary.Proofs.Engine.Session
import Formulary.Proofs.Function.Registration

/-!
# Proofs/Engine/Registration — registering in a session

Functions come with a body that takes its arguments by position or as a list, constants with a value.
Each of these requests either is refused and changes nothing, or enters one function or constant and
empties the cache (`Enters`). No other request changes a registry. So what is not overwritable stays for
the rest of a session (`Keeps`), and the built-in functions and constants stay for all of it.
-/

namespace Formulary

open Text

variable {T α β : Type}

/-! ## What operations keep -/

namespace Engine

/-- Functions and constants that are not overwritable stay. -/
structure Keeps (engine engine' : Engine T) : Prop where
  functions : engine.functions.Keeps engine'.functions
  constants : engine.constants.Keeps engine'.constants

namespace Keeps

variable {engine engine' engine'' : Engine T}

theorem of_eq (hfunctions : engine'.functions = engine.functions)
    (hconstants : engine'.constants = engine.constants) : Keeps engine engine' := by
  refine ⟨?_, ?_⟩
  · rw [hfunctions]
    exact NameMap.Keeps.refl _
  · rw [hconstants]
    exact NameMap.Keeps.refl _

theorem refl (engine : Engine T) : Keeps engine engine :=
  of_eq rfl rfl

theorem trans (h : Keeps engine engine') (h' : Keeps engine' engine'') : Keeps engine engine'' :=
  ⟨NameMap.Keeps.trans h.functions h'.functions, NameMap.Keeps.trans h.constants h'.constants⟩

end Keeps

/-- Whatever an operation changes, functions and constants that are not overwritable stay. -/
def Preserves (m : EngineM T α) : Prop :=
  ∀ engine, Keeps engine (perform m engine).2

theorem Preserves.bind {m : EngineM T α} {f : α → EngineM T β} (h : Preserves m)
    (hf : ∀ a, Preserves (f a)) : Preserves (m >>= f) := by
  intro engine
  rw [perform_bind]
  have hfirst := h engine
  generalize perform m engine = p at hfirst ⊢
  obtain ⟨result, engine'⟩ := p
  cases result with
  | ok a => exact hfirst.trans (hf a engine')
  | error error => exact hfirst

theorem preserves_cached (key : FormulaKey) (build : Eval T (Formula T)) :
    Preserves (cached key build) := by
  intro engine
  cases hcache : engine.cache with
  | none =>
    rw [perform_cached_none hcache]
    exact .refl engine
  | some cache =>
    rw [perform_cached_some hcache]
    exact .of_eq rfl rfl

theorem preserves_evaluate (formula : Formula T) (vars : NameMap T) :
    Preserves (evaluate formula vars) :=
  fun engine => .refl engine

section Operations

variable [Numeric T]

theorem preserves_build (text : String) : Preserves (build (T := T) text) := by
  intro engine
  rw [build, perform_get_bind]
  exact preserves_cached _ _ engine

theorem preserves_buildExpr (e : Expr T) : Preserves (buildExpr e) := by
  intro engine
  rw [buildExpr, perform_check_bind]
  cases e.checkDepth with
  | ok _ =>
    rw [perform_get_bind]
    exact preserves_cached _ _ engine
  | error error => exact .refl engine

theorem preserves_calculate (text : String) (vars : NameMap T) : Preserves (calculate text vars) :=
  (preserves_build text).bind fun formula => preserves_evaluate formula vars

theorem preserves_execute (e : Expr T) (vars : NameMap T) : Preserves (execute e vars) :=
  (preserves_buildExpr e).bind fun formula => preserves_evaluate formula vars

end Operations

end Engine

/-! ## Registrations -/

/-- What a request registers. -/
inductive Registration (T : Type) where
  | function (info : FunctionInfo T)
  | constant (info : ConstantInfo T)

namespace Registration

/-- The function that a name gets. -/
def function? : Registration T → String → Option (FunctionInfo T)
  | function info, name => if foldName name = info.name then some info else none
  | constant _, _ => none

/-- The constant that a name gets. -/
def constant? : Registration T → String → Option (ConstantInfo T)
  | constant info, name => if foldName name = info.name then some info else none
  | function _, _ => none

/-- The error of a refusal, with the folded name. -/
def refusal : Registration T → FormulaError
  | function info => .duplicateFunction info.name
  | constant info => .duplicateConstant info.name

/-- The name belongs to a function or a constant that is not overwritable. -/
def Refused : Registration T → Engine T → Prop
  | function info, engine => engine.functions.Protects info.name
  | constant info, engine => engine.constants.Protects info.name

/-- An engine before and after a registration that is not refused. -/
structure Enters (r : Registration T) (engine engine' : Engine T) : Prop where
  /-- All spellings of the name get the function, and no other name does. -/
  get?_functions : ∀ name,
    engine'.functions.get? name = (r.function? name).or (engine.functions.get? name)
  get?_constants : ∀ name,
    engine'.constants.get? name = (r.constant? name).or (engine.constants.get? name)
  options_eq : engine'.options = engine.options
  optimizer_eq : engine'.optimizer = engine.optimizer
  /-- The cache is empty, and has counted nothing. -/
  cache_eq : engine'.cache = engine.cache.map Cache.clear
  cacheStats_eq : engine'.cacheStats = engine.cacheStats.map fun stats => { stats with entries := 0 }

/-- The operation. -/
def enter : Registration T → EngineM T Unit
  | function info => Engine.registerFunction info
  | constant info => Engine.registerConstant info

/-- The engine after a registration that is not refused. -/
def after : Registration T → Engine T → Engine T
  | function info, engine => { engine with functions := engine.functions.insert info }.clearCache
  | constant info, engine => { engine with constants := engine.constants.insert info }.clearCache

variable {r : Registration T} {engine : Engine T}

/-- **A registration that is refused changes nothing.** -/
theorem perform_of_refused (h : r.Refused engine) :
    Engine.perform r.enter engine = (.error r.refusal, engine) := by
  cases r with
  | function info =>
    rw [enter, Engine.registerFunction_eq, Engine.perform_changeRegistry,
      FunctionRegistry.register_of_protects h]
    rfl
  | constant info =>
    rw [enter, Engine.registerConstant_eq, Engine.perform_changeRegistry,
      ConstantRegistry.register_of_protects h]
    rfl

theorem perform_of_not_refused (h : ¬r.Refused engine) :
    Engine.perform r.enter engine = (.ok (), r.after engine) := by
  cases r with
  | function info =>
    rw [enter, Engine.registerFunction_eq, Engine.perform_changeRegistry,
      FunctionRegistry.register_of_not_protects h]
    rfl
  | constant info =>
    rw [enter, Engine.registerConstant_eq, Engine.perform_changeRegistry,
      ConstantRegistry.register_of_not_protects h]
    rfl

theorem cacheStats_clearCache (engine : Engine T) : engine.clearCache.cacheStats =
    engine.cacheStats.map fun stats => { stats with entries := 0 } := by
  rw [Engine.clearCache, Engine.cacheStats, Engine.cacheStats, Option.map_map, Option.map_map]
  rfl

/-- **A registration that is not refused enters one entry** and empties the cache. -/
theorem enters_after (r : Registration T) (engine : Engine T) : r.Enters engine (r.after engine) := by
  cases r with
  | function info =>
    refine ⟨fun name => ?_, fun name => (Option.none_or ..).symm, rfl, rfl, rfl,
      cacheStats_clearCache _⟩
    rw [function?]
    refine (FunctionRegistry.get?_insert ..).trans ?_
    split
    · rfl
    · rfl
  | constant info =>
    refine ⟨fun name => (Option.none_or ..).symm, fun name => ?_, rfl, rfl, rfl,
      cacheStats_clearCache _⟩
    rw [constant?]
    refine (ConstantRegistry.get?_insert ..).trans ?_
    split
    · rfl
    · rfl

theorem keeps_after (h : ¬r.Refused engine) : engine.Keeps (r.after engine) := by
  cases r with
  | function info => exact ⟨NameMap.keeps_insert h info, NameMap.Keeps.refl _⟩
  | constant info => exact ⟨NameMap.Keeps.refl _, NameMap.keeps_insert h info⟩

end Registration

/-- What a request registers, if it does. -/
def Request.registration? : Request T → Option (Registration T)
  | registerFunction name callable overwritable =>
    some (.function (.ofCallable name callable overwritable))
  | registerSlice name arity label body overwritable =>
    some (.function (.ofSlice name arity label body overwritable))
  | registerConstant name value overwritable => some (.constant (.ofValue name value overwritable))
  | _ => none

/-! ## Sessions -/

namespace Session

/-- A session before and after a request to register something. -/
structure Registers (r : Registration T) (s : Session T) (next : Answer T × Session T) : Prop where
  fails_iff : next.1 = .done (.error r.refusal) ↔ r.Refused s.engine
  unchanged : r.Refused s.engine → next.2 = s
  enters : ¬r.Refused s.engine → next.1 = .done (.ok ()) ∧ next.2.stored = s.stored ∧
    r.Enters s.engine next.2.engine

theorem keeps_evaluateStored (s : Session T) (index : Nat) (f : Formula T → Eval T T) :
    s.engine.Keeps (s.evaluateStored index f).2.engine := by
  rw [evaluateStored]
  split
  · exact .refl s.engine
  · exact .refl s.engine

variable [Numeric T] {r : Registration T} {request : Request T}

theorem step_registration (s : Session T) (h : request.registration? = some r) :
    s.step request = s.perform r.enter .done := by
  cases request with
  | registerFunction name callable overwritable =>
    cases h
    rfl
  | registerSlice name arity label body overwritable =>
    cases h
    rfl
  | registerConstant name value overwritable =>
    cases h
    rfl
  | _ => cases h

/-- **A request to register something** is refused and changes nothing, or enters it. -/
theorem registers_step (s : Session T) (h : request.registration? = some r) :
    Registers r s (s.step request) := by
  rw [step_registration s h, perform]
  by_cases hrefused : r.Refused s.engine
  · rw [Registration.perform_of_refused hrefused]
    exact ⟨iff_of_true rfl hrefused, fun _ => rfl, fun hfree => absurd hrefused hfree⟩
  · rw [Registration.perform_of_not_refused hrefused]
    exact ⟨iff_of_false nofun hrefused, fun h => absurd h hrefused,
      fun _ => ⟨rfl, rfl, r.enters_after s.engine⟩⟩

theorem keeps_registration (s : Session T) (h : request.registration? = some r) :
    s.engine.Keeps (s.step request).2.engine := by
  rw [step_registration s h, perform]
  by_cases hrefused : r.Refused s.engine
  · rw [Registration.perform_of_refused hrefused]
    exact .refl s.engine
  · rw [Registration.perform_of_not_refused hrefused]
    exact Registration.keeps_after hrefused

/-- No request changes a function or a constant that is not overwritable. -/
theorem keeps_step (s : Session T) (request : Request T) :
    s.engine.Keeps (s.step request).2.engine := by
  cases request with
  | calculate text vars => exact Engine.preserves_calculate text vars s.engine
  | execute e vars => exact Engine.preserves_execute e vars s.engine
  | build text => exact Engine.preserves_build text s.engine
  | buildExpr e => exact Engine.preserves_buildExpr e s.engine
  | evaluate index vars => exact keeps_evaluateStored s index _
  | evaluateBindings index bindings => exact keeps_evaluateStored s index _
  | registerFunction name callable overwritable => exact keeps_registration s rfl
  | registerSlice name arity label body overwritable => exact keeps_registration s rfl
  | registerConstant name value overwritable => exact keeps_registration s rfl
  | clearCache => exact .of_eq rfl rfl

/-- **No session does.** -/
theorem keeps_run (s : Session T) (requests : List (Request T)) :
    s.engine.Keeps (s.run requests).2.engine := by
  induction requests generalizing s with
  | nil => exact .refl s.engine
  | cons request rest ih => exact (keeps_step s request).trans (ih _)

theorem functions_start (options : Options) (optimizer : Optimizer T) :
    (start options optimizer).engine.functions = Builtin.functionRegistry := by
  rw [start, Engine.withOptimizer]

theorem constants_start (options : Options) (optimizer : Optimizer T) :
    (start options optimizer).engine.constants = Builtin.constantRegistry := by
  rw [start, Engine.withOptimizer]

/-- **Registrations are atomic, and protected names are permanent.** In every state of every session, a
request to register something fails exactly if its name belongs to an entry that is not overwritable;
then nothing changes at all, and otherwise nothing but that entry and the cache, which is emptied. So an
entry that is not overwritable is found under every spelling of its name for the rest of the session,
and the built-in functions and constants are found so all along. -/
theorem registration_atomic_and_lasting (options : Options) (optimizer : Optimizer T)
    (requests : List (Request T)) :
    let s := ((start options optimizer).run requests).2
    (∀ request r, request.registration? = some r → Registers r s (s.step request)) ∧
      (∀ name spelling, foldName spelling = foldName name → ∀ later,
        (∀ info, s.engine.functions.get? name = some info → info.overwritable = false →
          (s.run later).2.engine.functions.get? spelling = some info) ∧
        ∀ info, s.engine.constants.get? name = some info → info.overwritable = false →
          (s.run later).2.engine.constants.get? spelling = some info) ∧
      ∀ name spelling, foldName spelling = foldName name →
        (∀ callable, (name, callable) ∈ Builtin.functions →
          s.engine.functions.get? spelling = some (.ofCallable name callable false)) ∧
        ∀ value, (name, value) ∈ Builtin.constants →
          s.engine.constants.get? spelling = some (.ofValue name value false) := by
  intro s
  have hkeeps := keeps_run (start options optimizer) requests
  have hfunctions := hkeeps.functions
  have hconstants := hkeeps.constants
  rw [functions_start] at hfunctions
  rw [constants_start] at hconstants
  refine ⟨fun request r h => registers_step s h, fun name spelling hfold later => ⟨?_, ?_⟩,
    fun name spelling hfold => ⟨?_, ?_⟩⟩
  · intro info hget hfixed
    rw [FunctionRegistry.get?, hfold]
    exact (keeps_run s later).functions _ _ hget hfixed
  · intro info hget hfixed
    rw [ConstantRegistry.get?, hfold]
    exact (keeps_run s later).constants _ _ hget hfixed
  · intro callable hmem
    have hget := Builtin.get?_functionRegistry _ hmem
    rw [FunctionRegistry.get?, hfold]
    exact hfunctions (foldName name) _ hget rfl
  · intro value hmem
    have hget := Builtin.get?_constantRegistry _ hmem
    rw [ConstantRegistry.get?, hfold]
    exact hconstants (foldName name) _ hget rfl

/-- In a new engine a constant cannot be registered under another spelling of `pi`. -/
theorem registration_atomic_and_lasting_pi :
    let s : Session Fixed := start .default Expr.fold
    let next := s.step (.registerConstant "Pi" Numeric.one true)
    next.1 = .done (.error (.duplicateConstant "pi")) ∧ next.2 = s := by
  intro s next
  obtain ⟨hregisters, -, hbuiltin⟩ :=
    registration_atomic_and_lasting (T := Fixed) .default Expr.fold []
  have hfold : foldName "Pi" = "pi" := by decide
  have hget := (hbuiltin "pi" "Pi" (by decide)).2 Numeric.pi
    (List.mem_cons_of_mem _ List.mem_cons_self)
  have hregister := hregisters (.registerConstant "Pi" Numeric.one true) _ rfl
  have hrefused : (Registration.constant (.ofValue "Pi" Numeric.one true)).Refused s.engine :=
    ⟨_, hget, rfl⟩
  exact ⟨hfold ▸ hregister.fails_iff.2 hrefused, hregister.unchanged hrefused⟩

end Session

end Formulary
