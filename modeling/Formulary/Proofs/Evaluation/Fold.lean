import Formulary.Evaluation.Fold
import Formulary.Proofs.Evaluation.Walk
import Formulary.Proofs.Expr.Depth

/-!
# Proofs/Evaluation/Fold — folding keeps the meaning

A folded expression is the value of a closed expression that has one, or else the expression with
folded operands. `folded_induction` is induction along that choice. Validation, results and the depth
limit are each preserved by both.
-/

namespace Formulary.Expr

variable {T : Type} [Numeric T]

/-- The expression that folding yields. -/
def folded (functions : FunctionRegistry T) (e : Expr T) : Expr T :=
  (fold functions e).value

/-- Whether an expression is closed and has a value. -/
def HasValue (functions : FunctionRegistry T) (e : Expr T) (value : T) : Prop :=
  e.isClosed = true ∧ (evaluate functions .empty e).result = .ok value

variable {functions : FunctionRegistry T}

/-- A value does not depend on the bindings. -/
theorem HasValue.evaluate_eq {e : Expr T} {value : T} (h : HasValue functions e value)
    (bindings : Bindings T) : (evaluate functions bindings e).result = .ok value := by
  rw [evaluate_of_isClosed functions bindings .empty h.1, h.2]

/-- Folding takes the value of an expression if it has one. -/
theorem value_valueOr (functions : FunctionRegistry T) (e : Expr T)
    (otherwise : Unit → Traced T (Expr T)) :
    (∃ value, HasValue functions e value ∧
      (valueOr functions e otherwise).value = const value) ∨
      (∀ value, ¬HasValue functions e value) ∧
        (valueOr functions e otherwise).value = (otherwise ()).value := by
  unfold valueOr
  split
  · next hclosed =>
    cases hresult : (evaluate functions .empty e).run.value with
    | ok value =>
      refine .inl ⟨value, ⟨hclosed, hresult⟩, ?_⟩
      rw [Traced.value_bind, hresult]
      rfl
    | error error =>
      refine .inr ⟨fun value hvalue => ?_, by rw [Traced.value_bind, hresult]⟩
      have hfails : (evaluate functions .empty e).result = .error error := hresult
      rw [hvalue.2] at hfails
      cases hfails
  · next hopen => exact .inr ⟨fun value hvalue => hopen hvalue.1, rfl⟩

theorem value_foldAll (arguments : List (Expr T)) :
    (foldAll functions arguments).value = arguments.map (folded functions) := by
  induction arguments with
  | nil => rw [foldAll, Traced.value_pure, List.map_nil]
  | cons e rest ih =>
    rw [foldAll, Traced.value_bind, Traced.value_bind, ih]
    rfl

/-- **Induction along folding**: a closed expression that becomes its value, or an operator without
one, which keeps its place above folded operands. -/
theorem folded_induction {motive : Expr T → Expr T → Prop}
    (computed : ∀ e value, HasValue functions e value → motive e (const value))
    (int : ∀ i, motive (int i) (int i)) (const : ∀ x, motive (const x) (const x))
    (var : ∀ name, motive (var name) (var name))
    (binary : ∀ op left right, (∀ value, ¬HasValue functions (binary op left right) value) →
      motive left (folded functions left) → motive right (folded functions right) →
      motive (binary op left right) (binary op (folded functions left) (folded functions right)))
    (neg : ∀ operand, (∀ value, ¬HasValue functions (neg operand) value) →
      motive operand (folded functions operand) →
      motive (neg operand) (neg (folded functions operand)))
    (compare : ∀ op left right, (∀ value, ¬HasValue functions (compare op left right) value) →
      motive left (folded functions left) → motive right (folded functions right) →
      motive (compare op left right) (compare op (folded functions left) (folded functions right)))
    (call : ∀ name arguments, (∀ value, ¬HasValue functions (call name arguments) value) →
      (∀ e ∈ arguments, motive e (folded functions e)) →
      motive (call name arguments) (call name (arguments.map (folded functions))))
    (e : Expr T) : motive e (folded functions e) := by
  -- an operator either becomes its value or keeps its place above folded operands
  have choice : ∀ (e : Expr T) (otherwise : Unit → Traced T (Expr T)),
      ((∀ value, ¬HasValue functions e value) → motive e (otherwise ()).value) →
        motive e (valueOr functions e otherwise).value := by
    intro e otherwise hotherwise
    rcases value_valueOr functions e otherwise with ⟨value, hvalue, heq⟩ | ⟨hnone, heq⟩
    · rw [heq]
      exact computed e value hvalue
    · rw [heq]
      exact hotherwise hnone
  induction e using induct with
  | int i => exact int i
  | const x => exact const x
  | var name => exact var name
  | binary op left right hleft hright =>
    rw [folded, fold]
    exact choice _ _ fun hnone => binary op left right hnone hleft hright
  | neg operand hoperand =>
    rw [folded, fold]
    exact choice _ _ fun hnone => neg operand hnone hoperand
  | compare op left right hleft hright =>
    rw [folded, fold]
    exact choice _ _ fun hnone => compare op left right hnone hleft hright
  | call name arguments harguments =>
    rw [folded, fold]
    refine choice _ _ fun hnone => ?_
    rw [Traced.value_bind, value_foldAll]
    exact call name arguments hnone harguments

/-! ## What folding preserves -/

/-- **Folding hides no error of validation**: what became a value was valid. -/
theorem validate_folded (functions : FunctionRegistry T) (e : Expr T) :
    validate functions (folded functions e) = validate functions e := by
  refine folded_induction
    (motive := fun e e' => validate functions e' = validate functions e) ?_ ?_ ?_ ?_ ?_ ?_ ?_ ?_ e
  · intro e value hvalue
    rw [validate_of_evaluate hvalue.2]
    rfl
  · intro i
    rfl
  · intro x
    rfl
  · intro name
    rfl
  · intro op left right _ hleft hright
    rw [validate, validate, hleft, hright]
  · intro operand _ hoperand
    rw [validate, validate, hoperand]
  · intro op left right _ hleft hright
    rw [validate, validate, hleft, hright]
  · intro name arguments _ harguments
    have hall := validateAll_map_congr (g := id) harguments
    rw [List.map_id] at hall
    rw [validate, validate, List.length_map, hall]

/-- **Folding changes no result**, under any bindings. -/
theorem result_evaluate_folded (functions : FunctionRegistry T) (bindings : Bindings T)
    (e : Expr T) : (evaluate functions bindings (folded functions e)).result =
      (evaluate functions bindings e).result := by
  refine folded_induction (motive := fun e e' => (evaluate functions bindings e').result =
    (evaluate functions bindings e).result) ?_ ?_ ?_ ?_ ?_ ?_ ?_ ?_ e
  · intro e value hvalue
    rw [hvalue.evaluate_eq bindings, evaluate, Eval.result_pure]
  · intro i
    rfl
  · intro x
    rfl
  · intro name
    rfl
  · intro op left right _ hleft hright
    simp only [evaluate, Eval.result_bind, hleft, hright]
  · intro operand _ hoperand
    simp only [evaluate, Eval.result_bind, hoperand]
  · intro op left right _ hleft hright
    simp only [evaluate, Eval.result_bind, hleft, hright]
  · intro name arguments _ harguments
    have hall := result_evaluateAll_map_congr (g := id) harguments
    rw [List.map_id] at hall
    simp only [evaluate, Eval.result_bind, List.length_map, hall]

/-- **Folding never deepens an expression.** -/
theorem height_folded_le (functions : FunctionRegistry T) (e : Expr T) :
    (folded functions e).height ≤ e.height := by
  refine folded_induction (motive := fun e e' => e'.height ≤ e.height) ?_ ?_ ?_ ?_ ?_ ?_ ?_ ?_ e
  · intro e value _
    rw [height_eq e, height]
    exact Nat.le_add_right _ _
  · intro i
    exact Nat.le_refl _
  · intro x
    exact Nat.le_refl _
  · intro name
    exact Nat.le_refl _
  · intro op left right _ hleft hright
    rw [height, height]
    omega
  · intro operand _ hoperand
    rw [height, height]
    omega
  · intro op left right _ hleft hright
    rw [height, height]
    omega
  · intro name arguments _ harguments
    have hle := heights_map_le (g := id) harguments
    rw [List.map_id] at hle
    rw [height, height]
    omega

theorem checkDepth_folded {e : Expr T} (h : e.checkDepth = .ok ()) :
    (folded functions e).checkDepth = .ok () :=
  checkDepth_eq_ok.2 (Nat.le_trans (height_folded_le functions e) (checkDepth_eq_ok.1 h))

end Formulary.Expr
