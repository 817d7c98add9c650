import Formulary.Number.Fixed.Instance
import Formulary.Proofs.Expr.Depth
import Formulary.Proofs.Expr.Nodes
import Formulary.Proofs.Formula.Backends

/-!
# Proofs/Formula/Errors — what can still fail in a formula that was built

Building an expression resolves all of its calls, and a call that resolves reaches its body with the
arguments it was written with (`FunctionInfo.reaches_of_resolve`). So only three kinds of nodes can fail
when the formula is evaluated: a variable without a value, an operator on numbers it is not defined for,
and a call whose body itself returns an error (`Expr.Raises`). The walk is followed from node to node;
closures and stack programs are the same evaluator as the walk.
-/

namespace Formulary

variable {T : Type}

/-! ## Bodies and their arguments -/

/-- What a body makes of a list of arguments. -/
inductive Callable.Returns : Callable T → List T → Except FormulaError T → Prop where
  | positional {label : String} {count : Nat} {small : count ≤ maxPositional}
    {body : Vector T count → Except FormulaError T} (v : Vector T count) :
    Returns (.positional label count small body) v.toList (body v)
  | slice {label : String} {body : List T → Except FormulaError T} (arguments : List T) :
    Returns (.slice label body) arguments (body arguments)

namespace FunctionInfo

/-- A call reaches the body with just these arguments, and has its outcome. -/
def Reaches (info : FunctionInfo T) (arguments : List T) : Prop :=
  ∃ outcome, info.callable.Returns arguments outcome ∧
    info.invoke arguments = (do
      Traced.record ⟨info.name, info.callable.label, arguments⟩
      Eval.ofExcept outcome : Eval T T)

theorem reaches_of_checkArity {info : FunctionInfo T} {arguments : List T}
    (h : info.checkArity arguments.length = .ok ()) : info.Reaches arguments := by
  have hcount : ∀ count, info.callable.count? = some count → arguments.length = count :=
    fun _ => count_of_checkArity h
  rw [Reaches, invoke]
  cases hcallable : info.callable with
  | positional label count small body =>
    rw [hcallable] at hcount
    have hlength : arguments.length = count := hcount count rfl
    have hv : (Vector.mk arguments.toArray (by simpa using hlength) : Vector T count).toList =
        arguments := rfl
    rw [← hv]
    exact ⟨_, .positional _, Callable.invoke_positional small body info.name _⟩
  | slice label body => exact ⟨_, .slice arguments, rfl⟩

/-- **A call that resolves reaches its body.** -/
theorem reaches_of_resolve {functions : FunctionRegistry T} {name : String} {info : FunctionInfo T}
    {arguments : List T} (h : functions.resolve name arguments.length = .ok info) :
    info.Reaches arguments :=
  reaches_of_checkArity (FunctionRegistry.resolve_eq_ok h).2

theorem Reaches.returns_of_error {info : FunctionInfo T} {arguments : List T} {error : FormulaError}
    (h : info.Reaches arguments) (herror : (info.invoke arguments).result = .error error) :
    info.callable.Returns arguments (.error error) := by
  obtain ⟨outcome, hreturns, hinvoke⟩ := h
  rw [hinvoke] at herror
  obtain rfl : outcome = .error error := herror
  exact hreturns

end FunctionInfo

variable [Numeric T]

/-! ## Where errors come from -/

namespace Expr

/-- A node fails under bindings although its operands do not. -/
inductive Raises (functions : FunctionRegistry T) (bindings : Bindings T) :
    Expr T → FormulaError → Prop where
  | var {name : String} : bindings.get? name = none →
    Raises functions bindings (.var name) (.variableNotDefined name)
  | binary {op : BinaryOp} {left right : Expr T} {a b : T} {cause : ArithmeticError} :
    (left.evaluate functions bindings).result = .ok a →
    (right.evaluate functions bindings).result = .ok b → op.apply a b = .error cause →
    Raises functions bindings (.binary op left right) (.arithmetic cause)
  | neg {operand : Expr T} {a : T} {cause : ArithmeticError} :
    (operand.evaluate functions bindings).result = .ok a → Numeric.neg a = .error cause →
    Raises functions bindings (.neg operand) (.arithmetic cause)
  | call {name : String} {arguments : List (Expr T)} {info : FunctionInfo T} {values : List T}
    {error : FormulaError} : functions.resolve name arguments.length = .ok info →
    (evaluateAll functions bindings arguments).result = .ok values →
    info.callable.Returns values (.error error) →
    Raises functions bindings (.call name arguments) error

/-- A node of an expression fails. -/
def Raised (functions : FunctionRegistry T) (bindings : Bindings T) (e : Expr T)
    (error : FormulaError) : Prop :=
  ∃ node ∈ e.nodes, node.Raises functions bindings error

variable {functions : FunctionRegistry T} {bindings : Bindings T} {error : FormulaError}

theorem Raises.raised {e : Expr T} (h : e.Raises functions bindings error) :
    e.Raised functions bindings error := by
  refine ⟨e, ?_, h⟩
  cases e with
  | _ => exact List.mem_cons_self

theorem Raised.of_subset {e e' : Expr T} (h : e.Raised functions bindings error)
    (hnodes : e.nodes ⊆ e'.nodes) : e'.Raised functions bindings error := by
  obtain ⟨node, hnode, hraises⟩ := h
  exact ⟨node, hnodes hnode, hraises⟩

omit [Numeric T] in
theorem validate_of_validateAll {arguments : List (Expr T)}
    (h : validateAll functions arguments = .ok ()) : ∀ e ∈ arguments, e.validate functions = .ok () := by
  induction arguments with
  | nil => exact nofun
  | cons e rest ih =>
    rw [validateAll] at h
    obtain ⟨_, he, hrest⟩ := bind_eq_ok h
    exact List.forall_mem_cons.2 ⟨he, ih hrest⟩

/-- What fails with two operands fails in one of them or after both. -/
theorem error_of_operands {left right : Expr T} {f : T → T → Eval T T}
    (h : (do
      let a ← left.evaluate functions bindings
      let b ← right.evaluate functions bindings
      f a b).result = .error error) :
    (left.evaluate functions bindings).result = .error error ∨
      (right.evaluate functions bindings).result = .error error ∨
      ∃ a b, (left.evaluate functions bindings).result = .ok a ∧
        (right.evaluate functions bindings).result = .ok b ∧ (f a b).result = .error error := by
  rcases Eval.result_bind_eq_error h with hleft | ⟨a, ha, h⟩
  · exact .inl hleft
  · rcases Eval.result_bind_eq_error h with hright | ⟨b, hb, h⟩
    · exact .inr (.inl hright)
    · exact .inr (.inr ⟨a, b, ha, hb, h⟩)

theorem error_of_evaluateAll {arguments : List (Expr T)}
    (h : (evaluateAll functions bindings arguments).result = .error error) :
    ∃ e ∈ arguments, (e.evaluate functions bindings).result = .error error := by
  induction arguments with
  | nil => cases h
  | cons e rest ih =>
    rw [evaluateAll] at h
    rcases Eval.result_bind_eq_error h with he | ⟨value, -, h⟩
    · exact ⟨e, List.mem_cons_self, he⟩
    · rcases Eval.result_bind_eq_error h with hrest | ⟨values, -, h⟩
      · obtain ⟨other, hother, he⟩ := ih hrest
        exact ⟨other, List.mem_cons_of_mem _ hother, he⟩
      · cases h

omit [Numeric T] in
theorem eq_arithmetic_of_lift {x : Except ArithmeticError T}
    (h : (Eval.ofExcept (liftArithmetic x) : Eval T T).result = .error error) :
    ∃ cause, x = .error cause ∧ error = .arithmetic cause := by
  cases x with
  | ok a => cases h
  | error cause =>
    cases h
    exact ⟨cause, rfl, rfl⟩

/-- **A valid expression fails in one of its nodes**, for a reason of that node. -/
theorem raised_of_evaluate {e : Expr T} (hvalid : e.validate functions = .ok ())
    (h : (e.evaluate functions bindings).result = .error error) :
    e.Raised functions bindings error := by
  induction e using induct with
  | int i => cases h
  | const x => cases h
  | var name =>
    rw [evaluate] at h
    cases hget : bindings.get? name with
    | some value =>
      rw [hget] at h
      cases h
    | none =>
      rw [hget] at h
      cases h
      exact Raises.raised (.var hget)
  | binary op left right hleft hright =>
    obtain ⟨_, hvalidLeft, hvalidRight⟩ := bind_eq_ok hvalid
    rw [evaluate] at h
    rcases error_of_operands h with h | h | ⟨a, b, ha, hb, h⟩
    · exact (hleft hvalidLeft h).of_subset
        (List.subset_cons_of_subset _ (List.subset_append_left ..))
    · exact (hright hvalidRight h).of_subset
        (List.subset_cons_of_subset _ (List.subset_append_right ..))
    · obtain ⟨cause, hcause, rfl⟩ := eq_arithmetic_of_lift h
      exact Raises.raised (.binary ha hb hcause)
  | neg operand hoperand =>
    rw [evaluate] at h
    rcases Eval.result_bind_eq_error h with h | ⟨a, ha, h⟩
    · exact (hoperand hvalid h).of_subset (List.subset_cons_self ..)
    · obtain ⟨cause, hcause, rfl⟩ := eq_arithmetic_of_lift h
      exact Raises.raised (.neg ha hcause)
  | compare op left right hleft hright =>
    obtain ⟨_, hvalidLeft, hvalidRight⟩ := bind_eq_ok hvalid
    rw [evaluate] at h
    rcases error_of_operands h with h | h | ⟨a, b, -, -, h⟩
    · exact (hleft hvalidLeft h).of_subset
        (List.subset_cons_of_subset _ (List.subset_append_left ..))
    · exact (hright hvalidRight h).of_subset
        (List.subset_cons_of_subset _ (List.subset_append_right ..))
    · cases h
  | call name arguments harguments =>
    rw [validate] at hvalid
    obtain ⟨info, hresolve, hall⟩ := bind_eq_ok hvalid
    rw [evaluate_call_of_resolve hresolve] at h
    rcases Eval.result_bind_eq_error h with h | ⟨values, hvalues, h⟩
    · obtain ⟨e, he, h⟩ := error_of_evaluateAll h
      exact (harguments e he (validate_of_validateAll hall e he) h).of_subset
        (List.subset_cons_of_subset _ (nodes_subset_nodesAll he))
    · have hcall := hresolve
      rw [← length_of_evaluateAll hvalues] at hcall
      have hreturns := (FunctionInfo.reaches_of_resolve hcall).returns_of_error h
      exact Raises.raised (.call hresolve hvalues hreturns)

end Expr

/-! ## Built formulas -/

namespace Backend

/-- What is built is the walk over a valid expression, whoever builds it. -/
theorem evaluator_of_build {backend : Backend} {functions : FunctionRegistry T} {e : Expr T}
    {evaluator : Evaluator T} (h : backend.build functions e = .ok evaluator) :
    e.validate functions = .ok () ∧ evaluator = fun bindings => e.evaluate functions bindings := by
  have hwalk : interpreted.build functions e = .ok evaluator := by
    rcases build_cases backend functions e with hsame | ⟨-, hlarge, -⟩
    · exact hsame.symm.trans h
    · rw [hlarge] at h
      cases h
  obtain ⟨_, -, hrest⟩ := bind_eq_ok hwalk
  obtain ⟨_, hvalid, hevaluator⟩ := bind_eq_ok hrest
  cases hevaluator
  exact ⟨hvalid, rfl⟩

/-- **Building an expression finds every call that cannot be made.** Whichever backend has built it,
evaluating it fails only in one of its nodes: a variable without a value, an operator on numbers that it
is not defined for, or a call whose body returns that error. For a call that resolves is made: by the
walk and the stack program it reaches its body with its arguments, and closures accept it as it is. -/
theorem build_validates (functions : FunctionRegistry T) :
    (∀ (e : Expr T) (backend : Backend) evaluator, backend.build functions e = .ok evaluator →
      ∀ bindings error, (evaluator bindings).result = .error error →
        e.Raised functions bindings error) ∧
      ∀ name n info, functions.resolve name n = .ok info →
        (∀ arguments : List T, arguments.length = n → info.Reaches arguments) ∧
        ∀ arguments : List (Evaluator T), arguments.length = n →
          Closure.call info.name info.callable arguments =
            .ok fun bindings => Closure.each arguments bindings >>= info.invoke := by
  refine ⟨fun e backend evaluator h bindings error herror => ?_, fun name n info h => ⟨?_, ?_⟩⟩
  · obtain ⟨hvalid, rfl⟩ := evaluator_of_build h
    exact Expr.raised_of_evaluate hvalid herror
  · rintro arguments rfl
    exact FunctionInfo.reaches_of_resolve h
  · rintro arguments rfl
    exact Closure.call_of_resolve h

/-- Closures for `x + 1` fail for want of `x`. -/
theorem build_validates_unbound :
    let e : Expr Fixed := .binary .add (.var "x") (.int 1)
    ∃ evaluator, compiled.build .empty e = .ok evaluator ∧
      (evaluator .empty).result = .error (.variableNotDefined "x") ∧
      e.Raised .empty .empty (.variableNotDefined "x") := by
  intro e
  have hdepth : e.checkDepth = .ok () := Expr.checkDepth_eq_ok.2 (by decide)
  have hbuild : ∃ evaluator, compiled.build .empty e = .ok evaluator := by
    rw [build, Closure.compile, hdepth]
    exact ⟨_, rfl⟩
  obtain ⟨evaluator, hbuild⟩ := hbuild
  have hfails : (evaluator .empty).result = .error (.variableNotDefined "x") := by
    rw [(evaluator_of_build hbuild).2]
    rfl
  exact ⟨evaluator, hbuild, hfails, (build_validates .empty).1 e compiled _ hbuild .empty _ hfails⟩

end Backend

end Formulary
