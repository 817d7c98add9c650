import Formulary.Number.Fixed.Decimal
import Formulary.Proofs.Number.Nearest
import Formulary.Proofs.Parser.Literal

/-!
# Proofs/Number/Canonical — canonical text of numbers

`Literal.WrittenAs` is the grammar of canonical text: an optional sign, digits with at most one point,
at least one digit, and an optional exponent. `Literal.magnitude` is the number that such a text stands
for, as a rational. The reader finds the parts of every canonical text, provided that 32 bits hold its
exponent (`Literal.read?_of_writtenAs`).
-/

namespace Formulary.Fixed

open Text

/-! ## The grammar -/

/-- How a sign is written. -/
inductive SignText : Bool → List Char → Prop where
  | absent : SignText false []
  | plus : SignText false ['+']
  | minus : SignText true ['-']

/-- How digits are written: with a point before the fraction, or without one if there is none. -/
inductive DigitText (whole : List Char) : List Char → List Char → Prop where
  | whole : DigitText whole [] whole
  | point (fraction : List Char) : DigitText whole fraction (whole ++ '.' :: fraction)

/-- How an exponent is written. -/
inductive ExponentText : Int → List Char → Prop where
  | absent : ExponentText 0 []
  | marked {mark : Char} {negative : Bool} {sign digits : List Char} :
    isExponentMark mark = true → SignText negative sign → digits ≠ [] → allDigits digits = true →
      ExponentText (withSign negative (ofDigits digits : Int)) (mark :: (sign ++ digits))

/-- A canonical text with its parts. -/
inductive Literal.WrittenAs (l : Literal) : List Char → Prop where
  | parts {sign digits exponent : List Char} :
    SignText l.negative sign → DigitText l.whole l.fraction digits →
      ExponentText l.exponent exponent → allDigits l.whole = true → allDigits l.fraction = true →
        ¬(l.whole = [] ∧ l.fraction = []) → l.WrittenAs (sign ++ digits ++ exponent)

/-! ## Values -/

/-- The value of digits after a point. -/
def fractionValue (digits : List Char) : ℚ :=
  ofDigits digits / 10 ^ digits.length

/-- The value of a literal without its sign. -/
def Literal.magnitude (l : Literal) : ℚ :=
  (ofDigits l.whole + fractionValue l.fraction) * 10 ^ l.exponent

/-! ## Reading -/

/-- Whether 32 bits hold an integer. -/
def IsInt32 (i : Int) : Prop :=
  -2147483648 ≤ i ∧ i < 2147483648

instance (i : Int) : Decidable (IsInt32 i) :=
  inferInstanceAs (Decidable (_ ∧ _))

section

variable {cs : List Char}

theorem stopsAt_isSign_of_allDigits (h : allDigits cs = true) : StopsAt isSign cs :=
  stopsAt_of_isDigit (List.all_eq_true.1 h)

theorem readInt32?_of_signText {negative : Bool} {sign : List Char} (hsign : SignText negative sign)
    (hne : cs ≠ []) (hdigits : allDigits cs = true) :
    readInt32? (sign ++ cs) =
      if IsInt32 (withSign negative (ofDigits cs : Int)) then
        some (withSign negative (ofDigits cs : Int))
      else none := by
  have hcs : cs ≠ [] ∧ allDigits cs = true := ⟨hne, hdigits⟩
  cases hsign with
  | absent =>
    exact (readInt32?_of_stopsAt (stopsAt_isSign_of_allDigits hdigits)).trans (if_pos hcs)
  | plus => exact if_pos hcs
  | minus => exact if_pos hcs

theorem isExponentMark_iff {c : Char} : isExponentMark c = true ↔ c = 'e' ∨ c = 'E' := by
  rw [isExponentMark, Bool.or_eq_true, decide_eq_true_iff, decide_eq_true_iff]

theorem ne_point_of_isDigit {c : Char} (h : c.isDigit = true) : decide (c ≠ '.') = true :=
  decide_eq_true (Parser.ne_of_isDigit h rfl)

/-- Neither signs nor digits nor points introduce an exponent. -/
theorem isExponentMark_of_mem {negative : Bool} {sign whole fraction digits : List Char}
    (hsign : SignText negative sign) (hdigits : DigitText whole fraction digits)
    (hwhole : allDigits whole = true) (hfraction : allDigits fraction = true) :
    ∀ c ∈ sign ++ digits, (!isExponentMark c) = true := by
  have hall : ∀ {ds : List Char}, allDigits ds = true → ∀ c ∈ ds, (!isExponentMark c) = true :=
    fun h c hc => by rw [isExponentMark_of_isDigit (List.all_eq_true.1 h c hc)]; rfl
  refine List.forall_mem_append.2 ⟨?_, ?_⟩
  · cases hsign with
    | absent => exact nofun
    | plus => exact List.forall_mem_singleton.2 rfl
    | minus => exact List.forall_mem_singleton.2 rfl
  · cases hdigits with
    | whole => exact hall hwhole
    | point =>
      exact List.forall_mem_append.2 ⟨hall hwhole, List.forall_mem_cons.2 ⟨rfl, hall hfraction⟩⟩

theorem cutExponent?_of_exponentText {e : Int} {exponent : List Char}
    (hcs : ∀ c ∈ cs, (!isExponentMark c) = true) (hexponent : ExponentText e exponent) :
    cutExponent? (cs ++ exponent) = if IsInt32 e then some (cs, e) else none := by
  have hstop : StopsAt (!isExponentMark ·) exponent := by
    cases hexponent with
    | absent => exact nofun
    | marked hmark _ _ _ => exact stopsAt_cons (congrArg not hmark) _
  rw [cutExponent?, dropWhile_append_of_stopsAt hcs hstop, takeWhile_append_of_stopsAt hcs hstop]
  cases hexponent with
  | absent => rw [List.append_nil]; rfl
  | marked _ hsign hne hdigits =>
    dsimp only
    rw [readInt32?_of_signText hsign hne hdigits]
    split <;> rfl

theorem cutSign_of_signText {negative : Bool} {sign : List Char} (hsign : SignText negative sign)
    (hcs : StopsAt isSign cs) : cutSign (sign ++ cs) = (negative, cs) := by
  cases hsign with
  | absent => exact cutSign_of_stopsAt hcs
  | plus => rfl
  | minus => rfl

theorem stopsAt_isSign_of_digitText {whole fraction : List Char}
    (hdigits : DigitText whole fraction cs) (hwhole : allDigits whole = true) :
    StopsAt isSign cs := by
  cases hdigits with
  | whole => exact stopsAt_isSign_of_allDigits hwhole
  | point =>
    cases whole with
    | nil => exact stopsAt_cons rfl _
    | cons d ds =>
      have hlead : StopsAt isSign (d :: ds) := stopsAt_isSign_of_allDigits hwhole
      exact hlead

/-- A point ends the digits before it. -/
theorem stopsAt_point (rest : List Char) : StopsAt (fun c => decide (c ≠ '.')) ('.' :: rest) :=
  stopsAt_cons rfl rest

/-- The point stands between the two rows of digits. -/
theorem cut_of_digitText {whole fraction : List Char} (hdigits : DigitText whole fraction cs)
    (hwhole : allDigits whole = true) :
    cs.takeWhile (· ≠ '.') = whole ∧ (cs.dropWhile (· ≠ '.')).drop 1 = fraction := by
  have hall : ∀ c ∈ whole, decide (c ≠ '.') = true := fun c hc =>
    ne_point_of_isDigit (List.all_eq_true.1 hwhole c hc)
  cases hdigits with
  | whole =>
    have hend : StopsAt (fun c => decide (c ≠ '.')) [] := nofun
    have htake := takeWhile_append_of_stopsAt hall hend
    have hdrop := dropWhile_append_of_stopsAt hall hend
    rw [List.append_nil] at htake hdrop
    exact ⟨htake, congrArg (List.drop 1) hdrop⟩
  | point fraction =>
    exact ⟨takeWhile_append_of_stopsAt hall (stopsAt_point fraction),
      congrArg (List.drop 1) (dropWhile_append_of_stopsAt hall (stopsAt_point fraction))⟩

/-- **The reader finds the parts of every canonical text** whose exponent 32 bits hold. -/
theorem Literal.read?_of_writtenAs {l : Literal} (h : l.WrittenAs cs) :
    Literal.read? cs = if IsInt32 l.exponent then some l else none := by
  obtain ⟨hsign, hdigits, hexponent, hwhole, hfraction, hsome⟩ := h
  obtain ⟨htake, hdrop⟩ := cut_of_digitText hdigits hwhole
  have hboth : (allDigits l.whole && allDigits l.fraction) = true := by rw [hwhole, hfraction]; rfl
  rw [Literal.read?, cutExponent?_of_exponentText
    (isExponentMark_of_mem hsign hdigits hwhole hfraction) hexponent]
  split
  · simp only [Option.bind_eq_bind, Option.bind_some,
      cutSign_of_signText hsign (stopsAt_isSign_of_digitText hdigits hwhole), htake, hdrop,
      if_neg hsome, if_pos hboth]
  · rfl

end

end Formulary.Fixed
