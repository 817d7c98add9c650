import Formulary.Proofs.Engine.Fresh

/-!
# Proofs/Engine/Session — sessions with and without a cache

A session is a sequence of requests to an engine whose caller keeps the formulas it is handed. The
cache cannot be told from the answers: with it and without it a session goes the same way, step by
step (`mirrors_step`), because every reachable engine is sound.
-/

namespace Formulary

variable {T : Type}

/-! ## Sessions -/

/-- What a caller may ask for. Stored formulas are counted from zero. -/
inductive Request (T : Type) where
  | calculate (text : String) (vars : NameMap T)
  | execute (e : Expr T) (vars : NameMap T)
  | build (text : String)
  | buildExpr (e : Expr T)
  | evaluate (index : Nat) (vars : NameMap T)
  | evaluateBindings (index : Nat) (bindings : Bindings T)
  | registerFunction (name : String) (callable : Callable T) (overwritable : Bool)
  | registerSlice (name : String) (arity : Arity) (label : String)
      (body : List T → Except FormulaError T) (overwritable : Bool)
  | registerConstant (name : String) (value : T) (overwritable : Bool)
  | clearCache

/-- What a caller gets. -/
inductive Answer (T : Type) where
  | value (outcome : Except FormulaError T)
  | formula (outcome : Except FormulaError (Formula T))
  | done (outcome : Except FormulaError Unit)
  /-- There is no stored formula with this number. -/
  | absent

/-- An engine and the formulas that it has handed out. -/
structure Session (T : Type) where
  engine : Engine T
  stored : List (Formula T)

namespace Session

/-- The formula that an outcome adds to the stored ones. -/
def keep (stored : List (Formula T)) : Except FormulaError (Formula T) → List (Formula T)
  | .ok formula => stored ++ [formula]
  | .error _ => stored

/-- An operation that answers with its outcome. -/
def perform {α : Type} (s : Session T) (m : EngineM T α) (answer : Except FormulaError α → Answer T) :
    Answer T × Session T :=
  (answer (Engine.perform m s.engine).1, { s with engine := (Engine.perform m s.engine).2 })

/-- A build, whose formula is stored. -/
def performBuild (s : Session T) (m : EngineM T (Formula T)) : Answer T × Session T :=
  (.formula (Engine.perform m s.engine).1,
    ⟨(Engine.perform m s.engine).2, keep s.stored (Engine.perform m s.engine).1⟩)

/-- The value of a stored formula. -/
def evaluateStored (s : Session T) (index : Nat) (f : Formula T → Eval T T) :
    Answer T × Session T :=
  match s.stored[index]? with
  | some formula => (.value (f formula).result, s)
  | none => (.absent, s)

variable [Numeric T]

/-- One request. -/
def step (s : Session T) : Request T → Answer T × Session T
  | .calculate text vars => s.perform (Engine.calculate text vars) .value
  | .execute e vars => s.perform (Engine.execute e vars) .value
  | .build text => s.performBuild (Engine.build text)
  | .buildExpr e => s.performBuild (Engine.buildExpr e)
  | .evaluate index vars => s.evaluateStored index (·.evaluate vars)
  | .evaluateBindings index bindings => s.evaluateStored index (·.evaluateBindings bindings)
  | .registerFunction name callable overwritable =>
    s.perform (Engine.registerFunction (.ofCallable name callable overwritable)) .done
  | .registerSlice name arity label body overwritable =>
    s.perform (Engine.registerFunction (.ofSlice name arity label body overwritable)) .done
  | .registerConstant name value overwritable =>
    s.perform (Engine.registerConstant (.ofValue name value overwritable)) .done
  | .clearCache => (.done (.ok ()), { s with engine := s.engine.clearCache })

/-- The answers to some requests, and the session after them. -/
def run (s : Session T) : List (Request T) → List (Answer T) × Session T
  | [] => ([], s)
  | request :: rest =>
    let next := s.step request
    let later := next.2.run rest
    (next.1 :: later.1, later.2)

/-- A session with a new engine. -/
def start (options : Options) (optimizer : Optimizer T) : Session T :=
  ⟨.withOptimizer options optimizer, []⟩

/-! ## The same session without a cache -/

omit [Numeric T] in
/-- The session with its cache switched off. -/
def withoutCache (s : Session T) : Session T :=
  { s with engine := s.engine.withoutCache }

/-- A step that goes as it would without a cache, and leaves a sound engine. -/
structure Mirrors (s : Session T) (next : Session T → Answer T × Session T) : Prop where
  answer_eq : (next s).1 = (next s.withoutCache).1
  session_eq : (next s).2.withoutCache = (next s.withoutCache).2
  sound : (next s).2.engine.Sound

theorem mirrors_perform {α : Type} {s : Session T} {m : EngineM T α}
    (h : s.engine.Mirrors m) (answer : Except FormulaError α → Answer T) :
    s.Mirrors fun s => s.perform m answer := by
  refine ⟨?_, ?_, h.sound⟩
  · exact congrArg answer h.outcome_eq
  · exact congrArg (Session.mk · s.stored) h.engine_eq

theorem mirrors_performBuild {s : Session T} {m : EngineM T (Formula T)}
    (h : s.engine.Mirrors m) : s.Mirrors fun s => s.performBuild m := by
  refine ⟨?_, ?_, h.sound⟩
  · exact congrArg Answer.formula h.outcome_eq
  · simp only [performBuild, withoutCache]
    rw [h.outcome_eq, h.engine_eq]

theorem mirrors_evaluateStored {s : Session T} (h : s.engine.Sound) (index : Nat)
    (f : Formula T → Eval T T) : s.Mirrors fun s => s.evaluateStored index f := by
  have hstored : s.withoutCache.stored = s.stored := rfl
  refine ⟨?_, ?_, ?_⟩
  · simp only [evaluateStored, hstored]
    cases s.stored[index]? <;> rfl
  · simp only [evaluateStored, hstored]
    cases s.stored[index]? <;> rfl
  · simp only [evaluateStored]
    cases s.stored[index]? <;> exact h

/-- **Each request is answered as it would be without a cache.** -/
theorem mirrors_step [Legible T] {s : Session T} (h : s.engine.Sound) (request : Request T) :
    s.Mirrors fun s => s.step request := by
  cases request with
  | calculate text vars => exact mirrors_perform (Engine.mirrors_calculate h text vars) _
  | execute e vars => exact mirrors_perform (Engine.mirrors_execute h e vars) _
  | build text => exact mirrors_performBuild (Engine.mirrors_build h text)
  | buildExpr e => exact mirrors_performBuild (Engine.mirrors_buildExpr h e)
  | evaluate index vars => exact mirrors_evaluateStored h index _
  | evaluateBindings index bindings => exact mirrors_evaluateStored h index _
  | registerFunction name callable overwritable =>
    exact mirrors_perform (Engine.mirrors_registerFunction h _) _
  | registerSlice name arity label body overwritable =>
    exact mirrors_perform (Engine.mirrors_registerFunction h _) _
  | registerConstant name value overwritable =>
    exact mirrors_perform (Engine.mirrors_registerConstant h _) _
  | clearCache => exact ⟨rfl, rfl, Engine.sound_clearCache _⟩

/-- **A whole session is answered as it would be without a cache.** -/
theorem mirrors_run [Legible T] (requests : List (Request T)) {s : Session T}
    (h : s.engine.Sound) :
    (s.run requests).1 = (s.withoutCache.run requests).1 ∧ (s.run requests).2.engine.Sound := by
  induction requests generalizing s with
  | nil => exact ⟨rfl, h⟩
  | cons request rest ih =>
    have hstep := mirrors_step h request
    obtain ⟨hanswers, hsound⟩ := ih hstep.sound
    have hanswer : (s.step request).1 = (s.withoutCache.step request).1 := hstep.answer_eq
    have hsession : (s.step request).2.withoutCache = (s.withoutCache.step request).2 :=
      hstep.session_eq
    refine ⟨?_, hsound⟩
    simp only [run]
    rw [← hsession, ← hanswer, hanswers]

/-- Whether the cache of an engine over a number type cannot be told from its answers. For every
setting, every optimizer and every session, the answers are those of an engine without a cache; and
whenever a text is calculated or an expression executed after the session, the outcome is that of
reading, optimizing and building it from scratch against the registries as they are then.

Both runs visit the variables of a request, and the entries of a registry, in the same order: it is part
of what they are given. A map that chooses its order anew for each evaluation may report another one of
several reserved names in one run than in the other; that is not for the cache to tell. -/
def CacheTransparent (T : Type) [Numeric T] : Prop :=
  ∀ (options : Options) (optimizer : Optimizer T) (requests : List (Request T)),
    let session := (start options optimizer).run requests
    let uncached := (start { options with cacheEnabled := false } optimizer).run requests
    let engine := session.2.engine
    session.1 = uncached.1 ∧
      (∀ text vars, (Engine.perform (Engine.calculate text vars) engine).1 =
        (do
          let formula ← engine.buildTextFresh text
          formula.evaluate vars : Eval T T).result) ∧
      ∀ e vars, (Engine.perform (Engine.execute e vars) engine).1 =
        (do
          Eval.ofExcept e.checkDepth
          let formula ← engine.buildFresh e
          formula.evaluate vars : Eval T T).result

theorem start_withoutCache (options : Options) (optimizer : Optimizer T) :
    (start options optimizer).withoutCache =
      start { options with cacheEnabled := false } optimizer := by
  rw [withoutCache, start, start, Engine.withOptimizer_withoutCache]

theorem sound_start (options : Options) (optimizer : Optimizer T) :
    (start options optimizer).engine.Sound :=
  Engine.sound_withOptimizer options optimizer

theorem cacheTransparent_of_legible [Legible T] : CacheTransparent T := by
  intro options optimizer requests session uncached engine
  obtain ⟨hanswers, hsound⟩ := mirrors_run requests (sound_start options optimizer)
  rw [start_withoutCache] at hanswers
  refine ⟨hanswers, ?_, ?_⟩
  · intro text vars
    exact (Engine.yields_calculate hsound text vars).outcome_eq
  · intro e vars
    exact (Engine.yields_execute hsound e vars).outcome_eq

/-- **The cache is transparent**, over fixed point and over binary floating point. -/
theorem cache_transparent : CacheTransparent Fixed ∧ CacheTransparent Float :=
  ⟨cacheTransparent_of_legible, cacheTransparent_of_legible⟩

end Session

end Formulary
