import Formulary.Number.Fixed.Instance
import Formulary.Proofs.Text.Unambiguous

/-!
# Proofs/Number/Legible — numbers that can be told apart inside a larger text

A number in the key of an expression stands in the middle of a text. `Legible` says of a number type
that its printed form still determines the number there, and where it ends. Fixed-point numbers are
legible although their printed form holds spaces: every one of them ends with the same closing brace.
-/

namespace Formulary

open Text

/-! ## Seams inside a key -/

/-- The characters that can follow a complete part of a key. -/
def isSeam (c : Char) : Bool :=
  c == ' ' || c == ',' || c == ')'

/-- A text that can follow a complete part of a key. -/
def AtSeam (cs : List Char) : Prop :=
  StopsAt (fun c => !isSeam c) cs

theorem atSeam_nil : AtSeam [] := nofun

theorem atSeam_cons {c : Char} (h : isSeam c = true) (cs : List Char) : AtSeam (c :: cs) := by
  intro d hd
  rw [List.head?_cons, Option.some.injEq] at hd
  subst hd
  simp [h]

/-- Characters of a class without seams stop at a seam. -/
theorem AtSeam.stopsAt {p : Char → Bool} (hp : ∀ c, p c = true → isSeam c = false)
    {cs : List Char} (h : AtSeam cs) : StopsAt p cs := by
  intro c hc
  rw [Bool.eq_false_iff]
  intro hpc
  have hseam : (!isSeam c) = false := h c hc
  rw [hp c hpc] at hseam
  exact absurd hseam (by decide)

theorem isSeam_of_isDigit (c : Char) (h : c.isDigit = true) : isSeam c = false := by
  rw [isSeam, Bool.or_eq_false_iff, Bool.or_eq_false_iff]
  refine ⟨⟨?_, ?_⟩, ?_⟩ <;>
  · rw [beq_eq_false_iff_ne]
    rintro rfl
    exact absurd h (by decide)

theorem AtSeam.stopsAt_isDigit {cs : List Char} (h : AtSeam cs) : StopsAt Char.isDigit cs :=
  h.stopsAt isSeam_of_isDigit

/-! ## Legible number types -/

/-- A number type whose printed form determines the number, also inside a key. -/
class Legible (T : Type) [Numeric T] : Prop where
  debug_append_inj : ∀ {x y : T} {r s : List Char}, AtSeam r → AtSeam s →
    Numeric.debug x ++ r = Numeric.debug y ++ s → x = y ∧ r = s

theorem Fixed.debug_append (x : Fixed) (r : List Char) :
    Fixed.debug x ++ r =
      "Fixed64 \x7b raw: ".toList ++ (signedDecimal x.rawInt ++ ' ' :: '\x7d' :: r) := by
  have hclose : " \x7d".toList = [' ', '\x7d'] := by simp
  unfold Fixed.debug
  rw [List.append_assoc, List.append_assoc, hclose, List.cons_append, List.cons_append,
    List.nil_append]

/-- **Fixed-point numbers are legible**: the raw value stands between two constant texts. -/
instance : Legible Fixed where
  debug_append_inj {x y r s} _ _ h := by
    have hstop : ∀ cs, StopsAt Char.isDigit (' ' :: cs) := fun cs =>
      AtSeam.stopsAt_isDigit (atSeam_cons rfl cs)
    have hdebug : Fixed.debug x ++ r = Fixed.debug y ++ s := h
    rw [Fixed.debug_append, Fixed.debug_append] at hdebug
    obtain ⟨hxy, hrs⟩ :=
      signedDecimal_append_inj (hstop _) (hstop _) (List.append_cancel_left hdebug)
    rw [List.cons.injEq, List.cons.injEq] at hrs
    exact ⟨Fixed.rawInt_injective hxy, hrs.2.2⟩

end Formulary
