import Formulary.Number.Fixed.Text
import Formulary.Proofs.Number.Decimal

/-!
# Proofs/Number/Displayed — displayed numbers are read back

A fixed-point number is displayed with its fraction rounded to ten digits. Half a unit of the tenth digit
is less than half a raw value, so the number nearest to the displayed one is the number itself
(`ofDecimal?_display`): the short form loses nothing.
-/

namespace Formulary

open Text

/-! ## The length of a decimal -/

namespace Text

/-- A number below a power of ten has no more digits than that. -/
theorem length_decimal_le {n k : Nat} (hk : 0 < k) (h : n < tenPower k) : (decimal n).length ≤ k := by
  induction n using decimal.induct generalizing k with
  | case1 n hn =>
    rw [decimal, if_pos hn]
    exact hk
  | case2 n hn ih =>
    obtain ⟨k, rfl⟩ : ∃ j, k = j + 1 := ⟨k - 1, by omega⟩
    rw [tenPower_succ] at h
    have hquotient : n / 10 < tenPower k := by omega
    have hpos : 0 < k := by
      refine Nat.pos_of_ne_zero fun hzero => ?_
      rw [hzero] at h
      exact hn (by simpa [tenPower] using h)
    rw [decimal, if_neg hn, List.length_append, List.length_singleton]
    exact Nat.succ_le_succ (ih hpos hquotient)

theorem length_padded {k n : Nat} (hk : 0 < k) (h : n < tenPower k) : (padded k n).length = k := by
  have hle := length_decimal_le hk h
  rw [padded, List.length_append, List.length_replicate]
  omega

theorem ofDigits_padded (k n : Nat) : ofDigits (padded k n) = n := by
  rw [padded, ofDigits_append, ofDigits_replicate_zero, Nat.zero_mul, Nat.zero_add, ofDigits_decimal]

theorem isDigit_of_mem_padded {k n : Nat} : ∀ c ∈ padded k n, c.isDigit = true := by
  refine List.forall_mem_append.2 ⟨fun c hc => ?_, isDigit_of_mem_decimal⟩
  rw [List.eq_of_mem_replicate hc]
  rfl

end Text

namespace Fixed

/-! ## The parts of the short form -/

/-- The digits that are displayed of the fractional bits. -/
def fractionText (frac : Nat) : List Char :=
  ((padded 10 (tenDigits frac)).reverse.dropWhile (· = '0')).reverse

/-- Ten digits never round up to one. -/
theorem tenDigits_lt {frac : Nat} (h : frac < 4294967296) : tenDigits frac < tenDigitRange := by
  rw [tenDigits, tenDigitRange]
  omega

theorem tenDigits_eq_zero_iff {frac : Nat} : tenDigits frac = 0 ↔ frac = 0 := by
  rw [tenDigits, tenDigitRange]
  omega

theorem fractionValue_fractionText {frac : Nat} (h : frac < 4294967296) :
    fractionValue (fractionText frac) = tenDigits frac / 10 ^ 10 := by
  obtain ⟨k, hk⟩ := eq_append_zeros (padded 10 (tenDigits frac))
  have hpadded : fractionValue (padded 10 (tenDigits frac)) = tenDigits frac / 10 ^ 10 := by
    rw [fractionValue, ofDigits_padded, length_padded (by decide) (tenDigits_lt h)]
  rw [← hpadded, hk, fractionValue_append_zeros]
  rfl

theorem isDigit_of_mem_fractionText {frac : Nat} : ∀ c ∈ fractionText frac, c.isDigit = true := by
  intro c hc
  have hmem := (List.dropWhile_sublist _).subset (List.mem_reverse.1 hc)
  exact isDigit_of_mem_padded c (List.mem_reverse.1 hmem)

theorem length_fractionText_le {frac : Nat} (h : frac < 4294967296) :
    (fractionText frac).length ≤ 10 := by
  have hle := (List.dropWhile_sublist (l := (padded 10 (tenDigits frac)).reverse) (· = '0')).length_le
  rw [List.length_reverse, length_padded (by decide) (tenDigits_lt h)] at hle
  rwa [fractionText, List.length_reverse]

/-- **A magnitude is displayed as its whole part and up to ten digits.** -/
theorem digitText_displayMagnitude (magnitude : Nat) :
    DigitText (decimal (magnitude / 4294967296)) (fractionText (magnitude % 4294967296))
      (displayMagnitude magnitude) := by
  have hlt := tenDigits_lt (Nat.mod_lt magnitude (by decide : 0 < 4294967296))
  rw [displayMagnitude]
  rw [Nat.div_eq_of_lt hlt, Nat.mod_eq_of_lt hlt, Nat.add_zero]
  split
  · next hzero =>
    have hzeros : padded 10 0 = List.replicate 10 '0' := by
      rw [padded, decimal]
      rfl
    have hnone : fractionText (magnitude % 4294967296) = [] := by
      rw [fractionText, hzero, hzeros]
      rfl
    rw [hnone]
    exact .whole
  · rw [List.append_assoc]
    exact .point _

/-- The parts of the short form. -/
def displayed (x : Fixed) : Literal :=
  ⟨decide (x.rawInt < 0), decimal (x.rawInt.natAbs / 4294967296),
    fractionText (x.rawInt.natAbs % 4294967296), 0⟩

theorem writtenAs_display (x : Fixed) : x.displayed.WrittenAs (display x) := by
  have hwhole : allDigits x.displayed.whole = true := List.all_eq_true.2 isDigit_of_mem_decimal
  have hfraction : allDigits x.displayed.fraction = true :=
    List.all_eq_true.2 isDigit_of_mem_fractionText
  have hsome : ¬(x.displayed.whole = [] ∧ x.displayed.fraction = []) := fun h => decimal_ne_nil _ h.1
  have hdigits := digitText_displayMagnitude x.rawInt.natAbs
  by_cases hneg : x.rawInt < 0
  · have hsign : SignText x.displayed.negative ['-'] := by
      rw [displayed, decide_eq_true hneg]
      exact .minus
    have h := Literal.WrittenAs.parts hsign hdigits .absent hwhole hfraction hsome
    rw [List.append_nil, List.singleton_append] at h
    rwa [display, if_pos hneg]
  · have hsign : SignText x.displayed.negative [] := by
      rw [displayed, decide_eq_false hneg]
      exact .absent
    have h := Literal.WrittenAs.parts hsign hdigits .absent hwhole hfraction hsome
    rw [List.append_nil, List.nil_append] at h
    rwa [display, if_neg hneg]

/-! ## Reading the short form -/

theorem length_whole_displayed_le (x : Fixed) : x.displayed.whole.length ≤ 10 := by
  have hlow := neg_le_rawInt x
  have hhigh := rawInt_lt x
  have hbound : x.rawInt.natAbs / 4294967296 ≤ 2147483648 := by omega
  exact length_decimal_le (by decide) (Nat.lt_of_le_of_lt hbound (by decide))

theorem length_fraction_displayed_le (x : Fixed) : x.displayed.fraction.length ≤ 10 :=
  length_fractionText_le (Nat.mod_lt _ (by decide))

theorem not_refused_displayed (x : Fixed) : ¬x.displayed.Refused := by
  have hwhole : x.displayed.wholeDigits.length ≤ x.displayed.whole.length :=
    (List.dropWhile_sublist _).length_le
  have hlength := length_whole_displayed_le x
  have hfraction : x.displayed.fractionDigits.length ≤ x.displayed.fractionLimit :=
    List.length_take_le _ _
  have hexponent : x.displayed.exponent = 0 := rfl
  rw [Literal.fractionLimit] at hfraction
  rintro (hlong | hint | ⟨-, hscale⟩)
  · omega
  · exact hint (hexponent ▸ by decide)
  · omega

theorem kept_displayed (x : Fixed) : x.displayed.kept = x.displayed.magnitude := by
  have hfraction := length_fraction_displayed_le x
  have hexponent : x.displayed.exponent = 0 := rfl
  refine Literal.kept_eq_magnitude (Nat.le_trans hfraction ?_) (by omega)
  rw [Literal.fractionLimit]
  omega

/-- Ten digits are less than half a raw value off. -/
theorem abs_tenDigits_sub_lt (frac : Nat) :
    |(tenDigits frac / 10 ^ 10 * 4294967296 - frac : ℚ)| < 1 / 2 := by
  have hnear : tenDigits frac * 4294967296 ≤ frac * 10000000000 + 2147483648 ∧
      frac * 10000000000 ≤ tenDigits frac * 4294967296 + 2147483648 := by
    rw [tenDigits, tenDigitRange]
    omega
  have hlow : (tenDigits frac : ℚ) * 4294967296 ≤ frac * 10000000000 + 2147483648 := by
    exact_mod_cast hnear.1
  have hhigh : (frac : ℚ) * 10000000000 ≤ tenDigits frac * 4294967296 + 2147483648 := by
    exact_mod_cast hnear.2
  rw [abs_lt]
  constructor <;> linarith

/-- **A number is nearest to what is displayed of it.** -/
theorem nearestNat_displayed (x : Fixed) :
    nearestNat (x.displayed.magnitude * 4294967296) = x.rawInt.natAbs := by
  have hexponent : x.displayed.exponent = 0 := rfl
  have hsplit : (x.rawInt.natAbs : ℚ) = (x.rawInt.natAbs / 4294967296 : Nat) * 4294967296 +
      (x.rawInt.natAbs % 4294967296 : Nat) := by
    have h := congrArg (Nat.cast : Nat → ℚ) (Nat.div_add_mod' x.rawInt.natAbs 4294967296)
    rw [Nat.cast_add, Nat.cast_mul, Nat.cast_ofNat] at h
    exact h.symm
  have hfrac := abs_tenDigits_sub_lt (x.rawInt.natAbs % 4294967296)
  apply nearestNat_eq_of_abs_lt
  rw [Literal.magnitude, hexponent, zpow_zero, mul_one, displayed, ofDigits_decimal,
    fractionValue_fractionText (Nat.mod_lt _ (by decide)), add_mul, hsplit, add_sub_add_left_eq_sub]
  exact hfrac

/-- **A displayed number is read back.** -/
theorem ofDecimal?_display (x : Fixed) : ofDecimal? (display x) = some x := by
  have hsign : withSign x.displayed.negative (x.rawInt.natAbs : Int) = x.rawInt := by
    by_cases hneg : x.rawInt < 0
    · rw [displayed, decide_eq_true hneg]
      change -(x.rawInt.natAbs : Int) = x.rawInt
      omega
    · rw [displayed, decide_eq_false hneg]
      change (x.rawInt.natAbs : Int) = x.rawInt
      omega
  rw [ofDecimal?_of_kept (writtenAs_display x) (not_refused_displayed x) (kept_displayed x),
    Literal.value, nearest?_withSign _ x.displayed.magnitude_nonneg, nearestNat_displayed, hsign,
    narrow?_rawInt]

end Fixed

end Formulary
