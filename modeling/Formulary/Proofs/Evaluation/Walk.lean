import Formulary.Evaluation.Walk
import Formulary.Proofs.Expr.Nodes
import Formulary.Proofs.Function.Registry

/-!
# Proofs/Evaluation/Walk — the value of an expression

Bindings matter only for the variables of an expression, so that one without variables has one value.
An expression that has a value is valid: evaluating it has resolved all of its calls. What validation
reports otherwise is the first call that is refused (`validate_eq_refusal`).
-/

namespace Formulary.Expr

variable {T : Type} [Numeric T]

/-- The value of a call whose function is resolved. -/
theorem evaluate_call_of_resolve {functions : FunctionRegistry T} {name : String}
    {arguments : List (Expr T)} {info : FunctionInfo T}
    (h : functions.resolve name arguments.length = .ok info) (bindings : Bindings T) :
    evaluate functions bindings (call name arguments) =
      evaluateAll functions bindings arguments >>= info.invoke := by
  rw [evaluate, h]
  rfl

/-- A list of expressions has as many values. -/
theorem length_of_evaluateAll {functions : FunctionRegistry T} {bindings : Bindings T}
    {arguments : List (Expr T)} {values : List T}
    (h : (evaluateAll functions bindings arguments).result = .ok values) :
    values.length = arguments.length := by
  induction arguments generalizing values with
  | nil =>
    rw [evaluateAll] at h
    cases h
    rfl
  | cons e rest ih =>
    rw [evaluateAll] at h
    obtain ⟨value, _, hrest⟩ := Eval.result_bind_eq_ok h
    obtain ⟨more, hmore, hvalues⟩ := Eval.result_bind_eq_ok hrest
    cases hvalues
    rw [List.length_cons, List.length_cons, ih hmore]

/-! ## Arguments one by one -/

section Arguments

variable {ι : Type} {f g : ι → Expr T} {xs : List ι} {functions : FunctionRegistry T}

omit [Numeric T] in
theorem validateAll_map_congr (h : ∀ x ∈ xs, validate functions (f x) = validate functions (g x)) :
    validateAll functions (xs.map f) = validateAll functions (xs.map g) := by
  induction xs with
  | nil => rfl
  | cons x xs ih =>
    rw [List.map_cons, List.map_cons, validateAll, validateAll, h x List.mem_cons_self,
      ih fun y hy => h y (List.mem_cons_of_mem _ hy)]

theorem result_evaluateAll_map_congr {bindings : Bindings T}
    (h : ∀ x ∈ xs, (evaluate functions bindings (f x)).result =
      (evaluate functions bindings (g x)).result) :
    (evaluateAll functions bindings (xs.map f)).result =
      (evaluateAll functions bindings (xs.map g)).result := by
  induction xs with
  | nil => rfl
  | cons x xs ih =>
    simp only [List.map_cons, evaluateAll, Eval.result_bind, h x List.mem_cons_self,
      ih fun y hy => h y (List.mem_cons_of_mem _ hy)]

end Arguments

/-! ## What bindings matter -/

theorem evaluateAll_congr {functions : FunctionRegistry T} {b b' : Bindings T}
    {arguments : List (Expr T)}
    (h : ∀ e ∈ arguments, evaluate functions b e = evaluate functions b' e) :
    evaluateAll functions b arguments = evaluateAll functions b' arguments := by
  induction arguments with
  | nil => rw [evaluateAll, evaluateAll]
  | cons e rest ih =>
    rw [evaluateAll, evaluateAll, h e List.mem_cons_self,
      ih fun e he => h e (List.mem_cons_of_mem _ he)]

/-- **Bindings matter only for the variables of an expression.** -/
theorem evaluate_congr (functions : FunctionRegistry T) {b b' : Bindings T} {e : Expr T}
    (h : ∀ name, var name ∈ e.nodes → b.get? name = b'.get? name) :
    evaluate functions b e = evaluate functions b' e := by
  induction e using induct with
  | int i => rw [evaluate, evaluate]
  | const x => rw [evaluate, evaluate]
  | var name => rw [evaluate, evaluate, h name (by simp [nodes])]
  | binary op left right hleft hright =>
    have heqLeft := hleft fun name hname => h name (by simp [nodes, hname])
    have heqRight := hright fun name hname => h name (by simp [nodes, hname])
    rw [evaluate, evaluate, heqLeft, heqRight]
  | neg operand hoperand =>
    have heq := hoperand fun name hname => h name (by simp [nodes, hname])
    rw [evaluate, evaluate, heq]
  | compare op left right hleft hright =>
    have heqLeft := hleft fun name hname => h name (by simp [nodes, hname])
    have heqRight := hright fun name hname => h name (by simp [nodes, hname])
    rw [evaluate, evaluate, heqLeft, heqRight]
  | call name arguments harguments =>
    have hall := evaluateAll_congr fun e he => harguments e he fun name hname =>
      h name (List.mem_cons_of_mem _ (nodes_subset_nodesAll he hname))
    rw [evaluate, evaluate, hall]

/-- An expression without variables has one value. -/
theorem evaluate_of_isClosed (functions : FunctionRegistry T) (b b' : Bindings T) {e : Expr T}
    (h : e.isClosed = true) : evaluate functions b e = evaluate functions b' e :=
  evaluate_congr functions fun _ hname => absurd hname (not_mem_nodes_of_isClosed h)

/-! ## Values and validation -/

omit [Numeric T] in
theorem validateAll_eq_refusal {functions : FunctionRegistry T} {arguments : List (Expr T)}
    (hargs : ∀ e ∈ arguments,
      validate functions e = (e.calls.findSome? functions.refusal?).elim (.ok ()) .error) :
    validateAll functions arguments =
      (((nodesAll arguments).filterMap asCall?).findSome? functions.refusal?).elim (.ok ())
        .error := by
  induction arguments with
  | nil => rfl
  | cons e rest ih =>
    rw [validateAll, nodesAll, List.filterMap_append, FunctionRegistry.refusal_append,
      hargs e List.mem_cons_self, ih fun e he => hargs e (List.mem_cons_of_mem _ he), calls]

omit [Numeric T] in
/-- **Validation fails for the first call that is refused**, in the order they are written in. -/
theorem validate_eq_refusal (functions : FunctionRegistry T) (e : Expr T) :
    validate functions e = (e.calls.findSome? functions.refusal?).elim (.ok ()) .error := by
  induction e using induct with
  | int i => rfl
  | const x => rfl
  | var name => rfl
  | binary op left right hleft hright =>
    have hcalls : (binary op left right).calls = left.calls ++ right.calls :=
      List.filterMap_append
    rw [validate, hleft, hright, hcalls, FunctionRegistry.refusal_append]
  | neg operand hoperand => exact hoperand
  | compare op left right hleft hright =>
    have hcalls : (compare op left right).calls = left.calls ++ right.calls :=
      List.filterMap_append
    rw [validate, hleft, hright, hcalls, FunctionRegistry.refusal_append]
  | call name arguments harguments =>
    have hcalls : (call name arguments).calls =
        (name, arguments.length) :: (nodesAll arguments).filterMap asCall? := rfl
    rw [validate, FunctionRegistry.resolve_then, validateAll_eq_refusal harguments, hcalls,
      List.findSome?_cons]
    cases functions.refusal? (name, arguments.length) <;> rfl

theorem validateAll_of_evaluateAll {functions : FunctionRegistry T} {bindings : Bindings T}
    {arguments : List (Expr T)} {values : List T}
    (hargs : ∀ e ∈ arguments, ∀ value, (evaluate functions bindings e).result = .ok value →
      validate functions e = .ok ())
    (h : (evaluateAll functions bindings arguments).result = .ok values) :
    validateAll functions arguments = .ok () := by
  induction arguments generalizing values with
  | nil => rfl
  | cons e rest ih =>
    rw [evaluateAll] at h
    obtain ⟨value, hvalue, hrest⟩ := Eval.result_bind_eq_ok h
    obtain ⟨more, hmore, _⟩ := Eval.result_bind_eq_ok hrest
    rw [validateAll, hargs e List.mem_cons_self value hvalue]
    exact ih (fun e he => hargs e (List.mem_cons_of_mem _ he)) hmore

/-- **An expression with a value is valid.** -/
theorem validate_of_evaluate {functions : FunctionRegistry T} {bindings : Bindings T} {e : Expr T}
    {value : T} (h : (evaluate functions bindings e).result = .ok value) :
    validate functions e = .ok () := by
  induction e using induct generalizing value with
  | int i => rfl
  | const x => rfl
  | var name => rfl
  | binary op left right hleft hright =>
    rw [evaluate] at h
    obtain ⟨a, ha, hrest⟩ := Eval.result_bind_eq_ok h
    obtain ⟨b, hb, _⟩ := Eval.result_bind_eq_ok hrest
    rw [validate, hleft ha]
    exact hright hb
  | neg operand hoperand =>
    rw [evaluate] at h
    obtain ⟨a, ha, _⟩ := Eval.result_bind_eq_ok h
    exact hoperand ha
  | compare op left right hleft hright =>
    rw [evaluate] at h
    obtain ⟨a, ha, hrest⟩ := Eval.result_bind_eq_ok h
    obtain ⟨b, hb, _⟩ := Eval.result_bind_eq_ok hrest
    rw [validate, hleft ha]
    exact hright hb
  | call name arguments harguments =>
    rw [evaluate] at h
    obtain ⟨info, hinfo, hrest⟩ := Eval.result_bind_eq_ok h
    obtain ⟨values, hvalues, _⟩ := Eval.result_bind_eq_ok hrest
    rw [Eval.result_ofExcept] at hinfo
    rw [validate, hinfo]
    exact validateAll_of_evaluateAll (fun e he value => harguments e he) hvalues

end Formulary.Expr
