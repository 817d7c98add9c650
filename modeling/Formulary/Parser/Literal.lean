import Formulary.Error
import Formulary.Expr.Basic
import Formulary.Locale
import Formulary.Text.Digits

/-!
# Parser/Literal — numbers in formula text

`scan` takes a number off the front of a text, and `read` makes an expression of it: an integer where
it is one of 32 bits, a constant otherwise. Taking a number off leaves less text
(`length_scan_lt`).
-/

namespace Formulary.Parser

open Text

/-- Whether a text starts with a digit. -/
def startsWithDigit : List Char → Bool
  | [] => false
  | c :: _ => c.isDigit

/-- Whether a number stands at the front of a text: a digit, or a decimal mark before one. -/
def atNumber (locale : Locale) : List Char → Bool
  | [] => false
  | c :: rest => c.isDigit || ((c = locale.decimal || c = '.') && startsWithDigit rest)

/-- Takes an exponent off the front: a letter, an optional sign and at least one digit. -/
def scanExponent : List Char → List Char × List Char
  | [] => ([], [])
  | c :: rest =>
    let (sign, digits) := Locale.splitSign rest
    if (c = 'e' ∨ c = 'E') ∧ startsWithDigit digits then
      (c :: sign ++ digits.takeWhile Char.isDigit, digits.dropWhile Char.isDigit)
    else ([], c :: rest)

/-- Takes a number off the front of a text. -/
def scan (locale : Locale) (cs : List Char) : List Char × List Char :=
  let (exponent, rest) := scanExponent (cs.dropWhile locale.isNumberChar)
  (cs.takeWhile locale.isNumberChar ++ exponent, rest)

theorem length_splitSign_le (cs : List Char) : (Locale.splitSign cs).2.length ≤ cs.length := by
  unfold Locale.splitSign
  split <;> simp

theorem length_scanExponent_le (cs : List Char) : (scanExponent cs).2.length ≤ cs.length := by
  cases cs with
  | nil => simp [scanExponent]
  | cons c rest =>
    have hsign := length_splitSign_le rest
    have hdrop := (List.dropWhile_sublist (l := (Locale.splitSign rest).2) Char.isDigit).length_le
    simp only [scanExponent]
    split
    · simp only [List.length_cons]
      omega
    · exact Nat.le_refl _

theorem isNumberChar_of_atNumber {locale : Locale} {c : Char} {rest : List Char}
    (h : atNumber locale (c :: rest) = true) : locale.isNumberChar c = true := by
  simp only [atNumber, Bool.or_eq_true, Bool.and_eq_true] at h
  rcases h with h | ⟨h | h, -⟩ <;> simp_all [Locale.isNumberChar]

/-- **A number is not empty.** -/
theorem length_scan_lt {locale : Locale} {cs : List Char} (h : atNumber locale cs = true) :
    (scan locale cs).2.length < cs.length := by
  cases cs with
  | nil => simp [atNumber] at h
  | cons c rest =>
    have hscan := length_scanExponent_le (rest.dropWhile locale.isNumberChar)
    have hdrop := (List.dropWhile_sublist (l := rest) locale.isNumberChar).length_le
    simp only [scan, List.dropWhile_cons, isNumberChar_of_atNumber h, if_true, List.length_cons]
    omega

variable {T : Type} [Numeric T]

/-- The expression of a number, with its sign changed if it is `negative`. -/
def read (locale : Locale) (negative : Bool) (text : List Char) : Except FormulaError (Expr T) :=
  match locale.normalize text with
  | none => .error (.invalidNumber (String.ofList text))
  | some canonical =>
    let signed := if negative then '-' :: canonical else canonical
    match if allDigits canonical then readInt32? signed else none with
    | some i => .ok (.int (Int32.ofInt i))
    | none =>
      match Numeric.ofCanonical? signed with
      | some x => .ok (.const x)
      | none => .error (.invalidNumber (String.ofList text))

end Formulary.Parser
