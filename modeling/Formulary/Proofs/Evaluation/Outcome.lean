import Formulary.Traced

/-!
# Proofs/Evaluation/Outcome — the outcome of a sequence of evaluations

The result of a sequence depends on the results of its parts alone, and what follows a failure does
not count. `bind_congr_of_ok` is how two evaluations are shown equal: their first parts are equal, and
their later parts are where the first part has a value.
-/

namespace Formulary

variable {T α β : Type}

/-! ## Outcomes -/

theorem bind_eq_ok {x : Except FormulaError α} {f : α → Except FormulaError β} {b : β}
    (h : x >>= f = .ok b) : ∃ a, x = .ok a ∧ f a = .ok b := by
  cases x with
  | ok a => exact ⟨a, rfl, h⟩
  | error error => cases h

/-- A sequence fails in one of its parts. -/
theorem bind_eq_error {x : Except FormulaError α} {f : α → Except FormulaError β}
    {error : FormulaError} (h : x >>= f = .error error) :
    x = .error error ∨ ∃ a, x = .ok a ∧ f a = .error error := by
  cases x with
  | ok a => exact .inr ⟨a, rfl, h⟩
  | error other =>
    cases h
    exact .inl rfl

namespace Eval

/-! ## Evaluations -/

theorem ext {x y : Eval T α} (hresult : x.result = y.result) (hcalls : x.calls = y.calls) : x = y :=
  Traced.ext hresult hcalls

@[simp] theorem result_pure (a : α) : (pure a : Eval T α).result = .ok a := rfl

@[simp] theorem result_ofExcept (x : Except FormulaError α) :
    (ofExcept x : Eval T α).result = x := rfl

/-- The result of a sequence is the sequence of the results. -/
theorem result_bind (x : Eval T α) (f : α → Eval T β) :
    (x >>= f).result = x.result >>= fun a => (f a).result := by
  obtain ⟨value, calls⟩ := x
  cases value <;> rfl

/-- **Only what follows a value counts.** -/
theorem bind_congr_of_ok {x : Eval T α} {f g : α → Eval T β}
    (h : ∀ a, x.result = .ok a → f a = g a) : x >>= f = x >>= g := by
  obtain ⟨value, calls⟩ := x
  cases value with
  | ok a =>
    have hfg : f a = g a := h a rfl
    have hresult : (f a).result = (g a).result := by rw [hfg]
    have hcalls : calls ++ (f a).calls = calls ++ (g a).calls := by rw [hfg]
    exact ext hresult hcalls
  | error error => rfl

/-- A sequence has a value if both of its parts have one. -/
theorem result_bind_eq_ok {x : Eval T α} {f : α → Eval T β} {b : β}
    (h : (x >>= f).result = .ok b) : ∃ a, x.result = .ok a ∧ (f a).result = .ok b := by
  rw [result_bind] at h
  exact bind_eq_ok h

theorem result_bind_eq_error {x : Eval T α} {f : α → Eval T β} {error : FormulaError}
    (h : (x >>= f).result = .error error) :
    x.result = .error error ∨ ∃ a, x.result = .ok a ∧ (f a).result = .error error := by
  rw [result_bind] at h
  exact bind_eq_error h

end Eval

end Formulary
