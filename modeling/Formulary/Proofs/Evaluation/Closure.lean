import Formulary.Evaluation.Closure
import Formulary.Proofs.Evaluation.Walk

/-!
# Proofs/Evaluation/Closure — closures agree with the walk

Closing an expression finds the same unusable calls as validating it, and the closure it makes is the
walk with the expression fixed (`close_eq`).
-/

namespace Formulary.Closure

variable {T : Type}

/-! ## Calls -/

/-- Arguments by position have the values that the list of them has. -/
theorem toList_mapM {count : Nat} (arguments : Vector (Evaluator T) count) (bindings : Bindings T) :
    Vector.toList <$> arguments.mapM (· bindings) = each arguments.toList bindings := by
  have heach : ∀ rest : List (Evaluator T), rest.mapM (· bindings) = each rest bindings := by
    intro rest
    induction rest with
    | nil => rfl
    | cons argument rest ih => rw [List.mapM_cons, each, ih]
  calc Vector.toList <$> arguments.mapM (· bindings)
    _ = Array.toList <$> Vector.toArray <$> arguments.mapM (· bindings) :=
      comp_map Vector.toArray Array.toList _
    _ = Array.toList <$> arguments.toArray.mapM (· bindings) := by rw [Vector.toArray_mapM]
    _ = arguments.toList.mapM (· bindings) := Array.toList_mapM
    _ = each arguments.toList bindings := heach _

theorem take_toList {count : Nat} (name : String) (arguments : Vector (Evaluator T) count) :
    take name count arguments.toList = .ok arguments :=
  dif_pos arguments.length_toList

/-- **A closure does what calling the body with a list does.** -/
theorem call_positional {label : String} {count : Nat} (small : count ≤ maxPositional)
    (body : Vector T count → Except FormulaError T) (name : String)
    (arguments : Vector (Evaluator T) count) :
    call name (.positional label count small body) arguments.toList =
      .ok fun bindings => each arguments.toList bindings >>=
        (Callable.positional label count small body).invoke name := by
  rw [call, take_toList]
  refine congrArg Except.ok (funext fun bindings => ?_)
  rw [← toList_mapM, bind_map_left]
  simp only [Callable.invoke_positional]
  rfl

/-- Resolving has settled the number of arguments. -/
theorem call_of_resolve {functions : FunctionRegistry T} {name : String}
    {arguments : List (Evaluator T)} {info : FunctionInfo T}
    (h : functions.resolve name arguments.length = .ok info) :
    call info.name info.callable arguments =
      .ok fun bindings => each arguments bindings >>= info.invoke := by
  obtain ⟨-, hcheck⟩ := FunctionRegistry.resolve_eq_ok h
  have hcount : ∀ count, info.callable.count? = some count → arguments.length = count :=
    fun _ => FunctionInfo.count_of_checkArity hcheck
  change call info.name info.callable arguments =
    .ok fun bindings => each arguments bindings >>= info.callable.invoke info.name
  cases hcallable : info.callable with
  | positional label count small body =>
    rw [hcallable] at hcount
    exact call_positional small body info.name ⟨arguments.toArray, hcount count rfl⟩
  | slice label body => rfl

variable [Numeric T]

/-- The walk over an expression, as a closure. -/
def walk (functions : FunctionRegistry T) (e : Expr T) : Evaluator T :=
  fun bindings => e.evaluate functions bindings

theorem each_map_walk (functions : FunctionRegistry T) (bindings : Bindings T)
    (arguments : List (Expr T)) :
    each (arguments.map (walk functions)) bindings =
      Expr.evaluateAll functions bindings arguments := by
  induction arguments with
  | nil => rw [List.map_nil, each, Expr.evaluateAll]
  | cons e rest ih =>
    rw [List.map_cons, each, Expr.evaluateAll, ih]
    rfl

theorem call_eq_walk {functions : FunctionRegistry T} {name : String} {arguments : List (Expr T)}
    {info : FunctionInfo T} (h : functions.resolve name arguments.length = .ok info) :
    call info.name info.callable (arguments.map (walk functions)) =
      .ok (walk functions (.call name arguments)) := by
  have hlength : functions.resolve name (arguments.map (walk functions)).length = .ok info := by
    rw [List.length_map, h]
  rw [call_of_resolve hlength, Except.ok.injEq]
  funext bindings
  rw [each_map_walk, walk, Expr.evaluate_call_of_resolve h]

theorem closeAll_eq {functions : FunctionRegistry T} {arguments : List (Expr T)}
    (h : ∀ e ∈ arguments, close functions e =
      (do e.validate functions; pure (walk functions e))) :
    closeAll functions arguments =
      (do Expr.validateAll functions arguments; pure (arguments.map (walk functions))) := by
  induction arguments with
  | nil => rfl
  | cons e rest ih =>
    rw [closeAll, Expr.validateAll, h e List.mem_cons_self,
      ih fun e he => h e (List.mem_cons_of_mem _ he)]
    cases e.validate functions with
    | error error => rfl
    | ok _ => cases Expr.validateAll functions rest <;> rfl

/-- **The closure of an expression is the walk over it**, made once its calls are validated. -/
theorem close_eq (functions : FunctionRegistry T) (e : Expr T) :
    close functions e = (do e.validate functions; pure (walk functions e)) := by
  induction e using Expr.induct with
  | int i => rfl
  | const x => rfl
  | var name => rfl
  | binary op left right hleft hright =>
    rw [close, Expr.validate, hleft, hright]
    cases left.validate functions with
    | error error => rfl
    | ok _ => cases right.validate functions <;> rfl
  | neg operand hoperand =>
    rw [close, Expr.validate, hoperand]
    cases operand.validate functions <;> rfl
  | compare op left right hleft hright =>
    rw [close, Expr.validate, hleft, hright]
    cases left.validate functions with
    | error error => rfl
    | ok _ => cases right.validate functions <;> rfl
  | call name arguments harguments =>
    rw [close, Expr.validate, closeAll_eq harguments]
    cases hresolve : functions.resolve name arguments.length with
    | error error => rfl
    | ok info =>
      cases Expr.validateAll functions arguments with
      | error error => rfl
      | ok _ => exact call_eq_walk hresolve

end Formulary.Closure
