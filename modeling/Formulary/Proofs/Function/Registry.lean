import Formulary.Function.Registry
import Formulary.Proofs.Evaluation.Outcome

/-!
# Proofs/Function/Registry — what resolving a call settles

A call that resolves means the entry of its folded name, and gives a body that takes its arguments by
position just the number it asks for. One that does not is refused for its name or for the number of its
arguments (`refusal?`).
-/

namespace Formulary

variable {T : Type}

/-- A function that is resolved for a number of arguments is given its own number of them. -/
theorem FunctionInfo.count_of_checkArity {info : FunctionInfo T} {count n : Nat}
    (hcheck : info.checkArity n = .ok ()) (hcount : info.callable.count? = some count) :
    n = count := by
  rw [checkArity, info.arity_eq count hcount] at hcheck
  by_cases h : n = count
  · exact h
  · rw [if_neg (by simpa [Arity.accepts] using Ne.symm h)] at hcheck
    cases hcheck

namespace FunctionRegistry

/-- A resolved function is the entry of the folded name, and accepts the number of arguments. -/
theorem resolve_eq_ok {functions : FunctionRegistry T} {name : String} {n : Nat}
    {info : FunctionInfo T} (h : functions.resolve name n = .ok info) :
    functions.get? name = some info ∧ info.checkArity n = .ok () := by
  obtain ⟨found, hlookup, hrest⟩ := bind_eq_ok h
  obtain ⟨_, hcheck, hinfo⟩ := bind_eq_ok hrest
  cases hinfo
  refine ⟨?_, hcheck⟩
  rw [lookup] at hlookup
  cases hget : functions.get? name with
  | none =>
    rw [hget] at hlookup
    cases hlookup
  | some entry =>
    rw [hget] at hlookup
    cases hlookup
    rfl

/-- Why a call with a name and a number of arguments is refused: no function has the name, or it takes
another number. -/
def refusal? (functions : FunctionRegistry T) (call : String × Nat) : Option FormulaError :=
  match functions.get? call.1 with
  | none => some (.unknownFunction call.1)
  | some info =>
    if info.arity.accepts call.2 then none
    else some (.arityMismatch info.name (info.arity.expected call.2) call.2)

/-- Resolving a call goes on to what comes next, or ends in the refusal. -/
theorem resolve_then {α : Type} (functions : FunctionRegistry T) (name : String) (n : Nat)
    (next : Except FormulaError α) :
    (do let _ ← functions.resolve name n; next) =
      (functions.refusal? (name, n)).elim next .error := by
  rw [resolve, lookup, refusal?]
  cases functions.get? name with
  | none => rfl
  | some info =>
    change (do let _ ← (do info.checkArity n; pure info); next) = _
    rw [FunctionInfo.checkArity]
    cases haccepts : info.arity.accepts n with
    | true =>
      simp only [haccepts, if_true]
      rfl
    | false =>
      simp only [haccepts]
      rfl

/-- The first refusal among calls is one among the former, or else one among the latter. -/
theorem refusal_append (functions : FunctionRegistry T) (xs ys : List (String × Nat)) :
    ((xs ++ ys).findSome? functions.refusal?).elim (.ok ()) .error =
      (do
        (xs.findSome? functions.refusal?).elim (.ok ()) .error
        (ys.findSome? functions.refusal?).elim (.ok ()) .error : Except FormulaError Unit) := by
  rw [List.findSome?_append]
  cases xs.findSome? functions.refusal? <;> rfl

end FunctionRegistry

end Formulary
