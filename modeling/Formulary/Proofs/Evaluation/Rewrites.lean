import Formulary.Proofs.Evaluation.Fold

/-!
# Proofs/Evaluation/Rewrites — replacing parts of an expression

An expression rewrites to another if some of its parts, none or many, are replaced as a rule says. What
the rule preserves wherever it applies is preserved around it: calls that resolve, results, and levels
(`Rewrites.validate_eq`, `Rewrites.result_eq`, `Rewrites.height_le`).
-/

namespace Formulary.Expr

variable {T : Type}

/-- An expression with some of its parts replaced by a rule. -/
inductive Rewrites (rule : Expr T → Expr T → Prop) : Expr T → Expr T → Prop where
  | refl (e : Expr T) : Rewrites rule e e
  | rule {e e' : Expr T} : rule e e' → Rewrites rule e e'
  | binary {left left' right right' : Expr T} (op : BinaryOp) :
    Rewrites rule left left' → Rewrites rule right right' →
      Rewrites rule (.binary op left right) (.binary op left' right')
  | neg {operand operand' : Expr T} : Rewrites rule operand operand' →
    Rewrites rule (.neg operand) (.neg operand')
  | compare {left left' right right' : Expr T} (op : CompareOp) :
    Rewrites rule left left' → Rewrites rule right right' →
      Rewrites rule (.compare op left right) (.compare op left' right')
  /-- Arguments before and after, in pairs. -/
  | call {parts : List (Expr T × Expr T)} (name : String) : (∀ p ∈ parts, Rewrites rule p.1 p.2) →
    Rewrites rule (.call name (parts.map (·.1))) (.call name (parts.map (·.2)))

namespace Rewrites

variable {rule : Expr T → Expr T → Prop} {e e' : Expr T}

/-- What was replaced can be put back. -/
theorem symm (h : Rewrites rule e e') : Rewrites (fun a b => rule b a) e' e := by
  induction h with
  | refl e => exact .refl e
  | rule h => exact .rule h
  | binary op _ _ ihleft ihright => exact .binary op ihleft ihright
  | neg _ ih => exact .neg ih
  | compare op _ _ ihleft ihright => exact .compare op ihleft ihright
  | @call parts name _ ih =>
    have hswap : ∀ p ∈ parts.map Prod.swap, Rewrites (fun a b => rule b a) p.1 p.2 := by
      intro p hp
      obtain ⟨q, hq, rfl⟩ := List.mem_map.1 hp
      exact ih q hq
    have hcall := Rewrites.call name hswap
    rwa [List.map_map, List.map_map] at hcall

/-- **A rule that never deepens** does not deepen an expression. -/
theorem height_le (hrule : ∀ e e', rule e e' → e'.height ≤ e.height) (h : Rewrites rule e e') :
    e'.height ≤ e.height := by
  induction h with
  | refl e => exact Nat.le_refl _
  | rule h => exact hrule _ _ h
  | binary op _ _ ihleft ihright =>
    rw [height, height]
    omega
  | neg _ ih =>
    rw [height, height]
    omega
  | compare op _ _ ihleft ihright =>
    rw [height, height]
    omega
  | call name _ ih =>
    rw [height, height]
    exact Nat.add_le_add_left (heights_map_le ih) 1

variable {functions : FunctionRegistry T}

/-- **A rule that keeps calls valid** keeps those of an expression valid. -/
theorem validate_eq (hrule : ∀ e e', rule e e' → e'.validate functions = e.validate functions)
    (h : Rewrites rule e e') : e'.validate functions = e.validate functions := by
  induction h with
  | refl e => rfl
  | rule h => exact hrule _ _ h
  | binary op _ _ ihleft ihright => rw [validate, validate, ihleft, ihright]
  | neg _ ih => rw [validate, validate, ih]
  | compare op _ _ ihleft ihright => rw [validate, validate, ihleft, ihright]
  | call name _ ih =>
    rw [validate, validate, List.length_map, List.length_map, validateAll_map_congr ih]

/-- **A rule that changes no result** changes none of an expression. -/
theorem result_eq [Numeric T] {bindings : Bindings T}
    (hrule : ∀ e e', rule e e' →
      (e'.evaluate functions bindings).result = (e.evaluate functions bindings).result)
    (h : Rewrites rule e e') :
    (e'.evaluate functions bindings).result = (e.evaluate functions bindings).result := by
  induction h with
  | refl e => rfl
  | rule h => exact hrule _ _ h
  | binary op _ _ ihleft ihright => simp only [evaluate, Eval.result_bind, ihleft, ihright]
  | neg _ ih => simp only [evaluate, Eval.result_bind, ih]
  | compare op _ _ ihleft ihright => simp only [evaluate, Eval.result_bind, ihleft, ihright]
  | call name _ ih =>
    simp only [evaluate, Eval.result_bind, List.length_map, result_evaluateAll_map_congr ih]

end Rewrites

end Formulary.Expr
