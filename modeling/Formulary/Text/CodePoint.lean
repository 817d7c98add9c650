/-!
# Text/CodePoint — sets of characters given by runs of code points

The character classes of this library are data: a list of runs, each an arithmetic progression of
code points. Steps of two are common because in many alphabets capital and small letters alternate.
-/

namespace Formulary.Text

/-- The code points `first`, `first + step`, … up to `last`. -/
structure Run where
  first : Nat
  last : Nat
  step : Nat
deriving DecidableEq, Repr

namespace Run

/-- Whether a code point belongs to the run. -/
def covers (run : Run) (code : Nat) : Bool :=
  run.first ≤ code && code ≤ run.last && (code - run.first) % run.step == 0

theorem first_le_of_covers {run : Run} {code : Nat} (h : run.covers code) : run.first ≤ code := by
  simp only [covers, Bool.and_eq_true, decide_eq_true_eq] at h
  exact h.1.1

theorem le_last_of_covers {run : Run} {code : Nat} (h : run.covers code) : code ≤ run.last := by
  simp only [covers, Bool.and_eq_true, decide_eq_true_eq] at h
  exact h.1.2

end Run

/-- A class of characters, as a list of runs. -/
abbrev CharSet := List Run

namespace CharSet

/-- Whether a character belongs to the class. -/
def has (set : CharSet) (c : Char) : Bool :=
  set.any (·.covers c.toNat)

theorem has_iff {set : CharSet} {c : Char} :
    set.has c = true ↔ ∃ run ∈ set, run.covers c.toNat = true := by
  simp [has]

end CharSet

end Formulary.Text
