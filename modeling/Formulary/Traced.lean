import Formulary.Error

/-!
# Traced — computations that record function calls

Evaluating a formula calls function bodies in an order that callers can rely on. A `Traced` value
comes with the calls made for it; sequencing two computations puts their calls one after the other
(`calls_bind`). `Eval` adds failure: a failed evaluation still has the calls made before it failed.
-/

namespace Formulary

/-- A call of a function body. -/
structure Call (T : Type) where
  /-- The name that the function is registered under. -/
  function : String
  /-- The label of the body. -/
  body : String
  arguments : List T

/-- A value with the calls made for it, in order. -/
structure Traced (T : Type) (α : Type) where
  value : α
  calls : List (Call T)

namespace Traced

variable {T α β : Type}

instance : Monad (Traced T) where
  pure x := ⟨x, []⟩
  bind x f := ⟨(f x.value).value, x.calls ++ (f x.value).calls⟩

@[simp] theorem value_pure (x : α) : (pure x : Traced T α).value = x := rfl

@[simp] theorem calls_pure (x : α) : (pure x : Traced T α).calls = [] := rfl

@[simp] theorem value_bind (x : Traced T α) (f : α → Traced T β) :
    (x >>= f).value = (f x.value).value := rfl

@[simp] theorem calls_bind (x : Traced T α) (f : α → Traced T β) :
    (x >>= f).calls = x.calls ++ (f x.value).calls := rfl

theorem ext {x y : Traced T α} (hvalue : x.value = y.value) (hcalls : x.calls = y.calls) :
    x = y := by
  obtain ⟨_, _⟩ := x
  obtain ⟨_, _⟩ := y
  cases hvalue
  cases hcalls
  rfl

instance : LawfulMonad (Traced T) :=
  .mk' (Traced T) (fun x => ext rfl (List.append_nil x.calls)) (fun _ _ => ext rfl rfl)
    (fun _ _ _ => ext rfl (List.append_assoc ..))

/-- The record of a single call. -/
def record (call : Call T) : Traced T Unit :=
  ⟨(), [call]⟩

end Traced

/-- A computation that may fail and records the calls it makes. -/
abbrev Eval (T : Type) : Type → Type :=
  ExceptT FormulaError (Traced T)

namespace Eval

variable {T α : Type}

/-- An outcome reached without a call. -/
def ofExcept (x : Except FormulaError α) : Eval T α :=
  ExceptT.mk (pure x)

/-- The outcome of an evaluation. -/
def result (x : Eval T α) : Except FormulaError α :=
  x.run.value

/-- The calls of an evaluation. -/
def calls (x : Eval T α) : List (Call T) :=
  x.run.calls

end Eval

end Formulary
