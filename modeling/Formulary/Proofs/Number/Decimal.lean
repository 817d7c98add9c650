import Mathlib.Algebra.Order.Field.Power
import Mathlib.Tactic.NormNum
import Formulary.Proofs.Number.Canonical

/-!
# Proofs/Number/Decimal — how canonical text is rounded

Reading should give the fixed-point number nearest to the number that a text stands for. It gives the
number nearest to `Literal.kept` instead: digits after the point are dropped beyond a limit, whatever
the exponent does with them afterwards, and what has more than 28 decimal places is rounded to 28 first.
The two agree unless a point half way between two fixed-point numbers separates them, and the texts in
`Literal.Refused` have no number at all (`ofDecimal?_eq_nearest?_iff`).
-/

namespace Formulary.Fixed

open Text

/-! ## Numbers below `2 ^ 128` -/

theorem below128_of_lt {n : Nat} (h : n < limit128) : below128 n = some n :=
  if_pos h

theorem below128_of_le {n : Nat} (h : limit128 ≤ n) : below128 n = none :=
  if_neg (Nat.not_lt.2 h)

/-- No word holds a number that reaches `2 ^ 128`. -/
theorem narrow?_below128 (negative : Bool) (n : Nat) :
    ((below128 n).bind fun n => narrow? (withSign negative (n : Int))) =
      narrow? (withSign negative (n : Int)) := by
  rcases Nat.lt_or_ge n limit128 with hlt | hle
  · rw [below128_of_lt hlt, Option.bind_some]
  · have hlarge : largest negative < n := by
      refine Nat.lt_of_lt_of_le ?_ hle
      cases negative <;> decide
    rw [below128_of_le hle, narrow?_of_not_fits (mt fits_withSign_iff.1 (Nat.not_le.2 hlarge))]
    rfl

theorem tenPower_pos (k : Nat) : 0 < tenPower k :=
  Nat.pow_pos (by decide)

theorem natCast_tenPower (k : Nat) : (tenPower k : ℚ) = 10 ^ k := by
  rw [tenPower]
  exact Nat.cast_pow 10 k

theorem tenPower_le {j k : Nat} (h : j ≤ k) : tenPower j ≤ tenPower k :=
  Nat.pow_le_pow_right (by decide) h

/-! ## Gathering digits -/

theorem digitValue_lt {c : Char} (h : c.isDigit = true) : digitValue c < 10 := by
  simp only [Char.isDigit, Bool.and_eq_true, decide_eq_true_eq, UInt32.le_iff_toNat_le] at h
  have h9 : '9'.val.toNat = 57 := rfl
  have hcode : c.toNat = c.val.toNat := rfl
  rw [digitValue]
  omega

theorem ofDigits_lt {cs : List Char} (h : allDigits cs = true) : ofDigits cs < tenPower cs.length := by
  induction cs using List.reverseRecOn with
  | nil => exact tenPower_pos 0
  | append_singleton cs c ih =>
    rw [allDigits, List.all_append, Bool.and_eq_true] at h
    have hcs := ih h.1
    have hc := digitValue_lt (List.all_eq_true.1 h.2 c (List.mem_singleton_self c))
    rw [ofDigits_concat, List.length_append, List.length_singleton, tenPower_succ]
    omega

/-- Up to 38 digits are gathered without reaching `2 ^ 128`. -/
theorem gather?_eq {cs : List Char} (h : allDigits cs = true) (hlength : cs.length ≤ 38) :
    gather? cs = some (ofDigits cs) := by
  induction cs using List.reverseRecOn with
  | nil => rfl
  | append_singleton cs c ih =>
    have hall := h
    rw [allDigits, List.all_append, Bool.and_eq_true] at h
    rw [List.length_append, List.length_singleton] at hlength
    have hlimit : tenPower 38 < limit128 := by decide
    have hbound : ofDigits (cs ++ [c]) < limit128 := by
      refine Nat.lt_trans (Nat.lt_of_lt_of_le (ofDigits_lt hall) (tenPower_le ?_)) hlimit
      rwa [List.length_append, List.length_singleton]
    rw [ofDigits_concat, Nat.mul_comm] at hbound
    have hstep : gather? (cs ++ [c]) = (gather? cs).bind fun n =>
        (below128 (n * 10)).bind fun n => below128 (n + digitValue c) := by
      rw [gather?, List.foldlM_append]
      simp only [Option.bind_eq_bind, List.foldlM_cons, List.foldlM_nil, Option.pure_def,
        Option.bind_fun_some]
      rfl
    rw [hstep, ih h.1 (by omega), Option.bind_some, below128_of_lt (by omega), Option.bind_some,
      below128_of_lt hbound, ofDigits_concat, Nat.mul_comm]

/-! ## Zeros that do not count -/

theorem eq_zeros_append_dropWhile (cs : List Char) :
    ∃ k, cs = List.replicate k '0' ++ cs.dropWhile (· = '0') := by
  refine ⟨(cs.takeWhile (· = '0')).length, ?_⟩
  have hzeros : cs.takeWhile (· = '0') = List.replicate (cs.takeWhile (· = '0')).length '0' :=
    List.eq_replicate_of_mem fun c hc => by
      simpa using List.all_eq_true.1 List.all_takeWhile c hc
  rw [← hzeros, List.takeWhile_append_dropWhile]

theorem ofDigits_dropWhile_zero (cs : List Char) :
    ofDigits (cs.dropWhile (· = '0')) = ofDigits cs := by
  obtain ⟨k, hk⟩ := eq_zeros_append_dropWhile cs
  conv => rhs; rw [hk, ofDigits_append, ofDigits_replicate_zero, Nat.zero_mul, Nat.zero_add]

/-- Zeros behind a fraction do not count. -/
theorem fractionValue_append_zeros (cs : List Char) (k : Nat) :
    fractionValue (cs ++ List.replicate k '0') = fractionValue cs := by
  rw [fractionValue, ofDigits_append, ofDigits_replicate_zero, List.length_replicate,
    List.length_append, List.length_replicate, Nat.add_zero, Nat.cast_mul, natCast_tenPower, pow_add,
    mul_div_mul_right _ _ (by positivity), fractionValue]

theorem eq_append_zeros (cs : List Char) :
    ∃ k, cs = (cs.reverse.dropWhile (· = '0')).reverse ++ List.replicate k '0' := by
  obtain ⟨k, hk⟩ := eq_zeros_append_dropWhile cs.reverse
  refine ⟨k, ?_⟩
  rw [← List.reverse_replicate, ← List.reverse_append, ← hk, List.reverse_reverse]

/-! ## The digits that are read -/

namespace Literal

/-- A literal without the digits after the point that are not read. -/
def cut (l : Literal) : Literal :=
  { l with fraction := l.fraction.take l.fractionLimit }

theorem fractionValue_fractionDigits (l : Literal) :
    fractionValue l.fractionDigits = fractionValue l.cut.fraction := by
  obtain ⟨k, hk⟩ := eq_append_zeros l.fraction
  have hcut : l.cut.fraction = l.fractionDigits ++
      List.replicate (min (l.fractionLimit - (l.fraction.reverse.dropWhile (· = '0')).reverse.length) k)
        '0' := by
    conv => lhs; rw [cut, hk]
    rw [List.take_append, List.take_replicate]
    rfl
  rw [hcut, fractionValue_append_zeros]

end Literal

/-- The number `significand / 10 ^ scale`. -/
def Scaled.value (s : Scaled) : ℚ :=
  s.significand / 10 ^ s.scale

namespace Literal

theorem magnitude_cut (l : Literal) :
    l.cut.magnitude = Scaled.value ⟨ofDigits (l.wholeDigits ++ l.fractionDigits),
      l.fractionDigits.length - l.exponent⟩ := by
  have hwhole : ofDigits l.wholeDigits = ofDigits l.whole := ofDigits_dropWhile_zero l.whole
  have hfraction : fractionValue l.fractionDigits = fractionValue l.cut.fraction :=
    fractionValue_fractionDigits l
  have hpower : (10 : ℚ) ^ l.fractionDigits.length ≠ 0 := by positivity
  rw [magnitude, ← hfraction, Scaled.value, ofDigits_append, hwhole, fractionValue]
  rw [zpow_sub₀ (by norm_num), zpow_natCast]
  push_cast
  rw [natCast_tenPower]
  change (ofDigits l.whole + _ : ℚ) * 10 ^ l.exponent = _
  field_simp

/-- At most 38 digits are read. -/
theorem length_digits_le (l : Literal) (h : l.wholeDigits.length ≤ 20) :
    (l.wholeDigits ++ l.fractionDigits).length ≤ 38 := by
  have hfraction : l.fractionDigits.length ≤ l.fractionLimit := List.length_take_le _ _
  rw [fractionLimit] at hfraction
  rw [List.length_append]
  omega

theorem allDigits_digits {l : Literal} (hwhole : allDigits l.whole = true)
    (hfraction : allDigits l.fraction = true) :
    allDigits (l.wholeDigits ++ l.fractionDigits) = true := by
  refine List.all_eq_true.2 (List.forall_mem_append.2 ⟨fun c hc => ?_, fun c hc => ?_⟩)
  · exact List.all_eq_true.1 hwhole c ((List.dropWhile_sublist _).subset hc)
  · have hmem : c ∈ l.fraction.reverse.dropWhile (· = '0') :=
      List.mem_reverse.1 (List.mem_of_mem_take hc)
    exact List.all_eq_true.1 hfraction c
      (List.mem_reverse.1 ((List.dropWhile_sublist _).subset hmem))

end Literal

/-! ## Rounding to raw values -/

/-- A magnitude rounded to so many decimal places, half way going up. -/
def roundTo (places : Nat) (q : ℚ) : ℚ :=
  nearestNat (q * 10 ^ places) / 10 ^ places

theorem roundTo_eq_self {places n : Nat} {q : ℚ} (h : q * 10 ^ places = n) : roundTo places q = q := by
  rw [roundTo, h, nearestNat_natCast, ← h, mul_div_cancel_right₀ _ (by positivity)]

theorem dropDigits_eq (n excess : Nat) :
    dropDigits n excess = nearestNat ((n : ℚ) / 10 ^ excess) := by
  rw [dropDigits, ← natCast_tenPower, nearestNat_div (tenPower_pos excess)]

/-- **Quotient and remainder apart give the nearest raw value**, if the remainder can be shifted. -/
theorem divideScaled?_eq (n : Nat) {scale : Nat} (h : scale ≤ 28) :
    divideScaled? n scale = below128 (nearestNat ((n : ℚ) / 10 ^ scale * 4294967296)) := by
  have hpos := tenPower_pos scale
  have hremainder : n % tenPower scale * 4294967296 < limit128 :=
    calc n % tenPower scale * 4294967296
      _ < tenPower scale * 4294967296 := Nat.mul_lt_mul_of_pos_right (Nat.mod_lt n hpos) (by decide)
      _ ≤ tenPower 28 * 4294967296 := Nat.mul_le_mul_right _ (tenPower_le h)
      _ < limit128 := by decide
  have hsplit : (n : ℚ) / 10 ^ scale * 4294967296 =
      (n / tenPower scale * 4294967296 : Nat) +
        ((n % tenPower scale * 4294967296 : Nat) / (tenPower scale : Nat) : ℚ) := by
    rw [← natCast_tenPower, natCast_div_eq hpos, Nat.cast_mul, Nat.cast_mul, Nat.cast_ofNat, add_mul,
      div_mul_eq_mul_div]
  rw [hsplit, nearestNat_natCast_add _ (by positivity), nearestNat_div hpos, divideScaled?, widen?,
    widen?, below128_of_lt hremainder]
  rcases Nat.lt_or_ge (n / tenPower scale * 4294967296) limit128 with hlt | hle
  · rw [below128_of_lt hlt, Option.bind_eq_bind, Option.bind_some, Option.bind_some]
  · rw [below128_of_le hle, below128_of_le (Nat.le_trans hle (Nat.le_add_right _ _))]
    rfl

/-- A whole number of digits moves the point to the right. -/
theorem toRaw?_of_nonpos {m k : Nat} (h : m = 0 → k = 0) :
    Scaled.toRaw? ⟨m, -(k : Int)⟩ = below128 (m * tenPower k * 4294967296) := by
  have hscale : -(k : Int) ≤ 0 := by omega
  rw [Scaled.toRaw?, if_pos hscale]
  dsimp only
  rw [Int.natAbs_neg, Int.natAbs_natCast, powerOfTen?]
  rcases Nat.lt_or_ge k 39 with hk | hk
  · rw [if_pos hk, Option.bind_eq_bind, Option.bind_some]
    rcases Nat.lt_or_ge (m * tenPower k) limit128 with hlt | hle
    · rw [below128_of_lt hlt, Option.bind_some, widen?]
    · rw [below128_of_le hle, below128_of_le (Nat.le_trans hle (Nat.le_mul_of_pos_right _ (by decide)))]
      rfl
  · have hm : 0 < m := Nat.pos_of_ne_zero fun hm => by have hzero := h hm; omega
    have hlimit : limit128 ≤ tenPower 39 := by decide
    have hle : limit128 ≤ m * tenPower k * 4294967296 :=
      calc limit128
        _ ≤ tenPower k := Nat.le_trans hlimit (tenPower_le hk)
        _ ≤ m * tenPower k := Nat.le_mul_of_pos_left _ hm
        _ ≤ m * tenPower k * 4294967296 := Nat.le_mul_of_pos_right _ (by decide)
    rw [if_neg (Nat.not_lt.2 hk), below128_of_le hle]
    rfl

/-- **The magnitude is rounded to 28 places and then to the nearest raw value**; what has 28 places or
fewer is rounded once. -/
theorem Scaled.toRaw?_eq {s : Scaled} (hlow : s.significand < tenPower 38)
    (hzero : s.significand = 0 → s.scale = 0) :
    s.toRaw? = below128 (nearestNat (roundTo 28 s.value * 4294967296)) := by
  obtain ⟨m, scale⟩ := s
  have hten : (10 : ℚ) ≠ 0 := by norm_num
  rcases le_or_gt scale 0 with hscale | hscale
  · obtain ⟨k, rfl⟩ : ∃ k : Nat, scale = -(k : Int) := ⟨scale.natAbs, by omega⟩
    have hvalue : Scaled.value ⟨m, -(k : Int)⟩ = (m * tenPower k : Nat) := by
      rw [Scaled.value, zpow_neg, div_inv_eq_mul, zpow_natCast, Nat.cast_mul, natCast_tenPower]
    have hplaces : ((m * tenPower k : Nat) : ℚ) * 10 ^ 28 = (m * tenPower k * tenPower 28 : Nat) := by
      rw [← natCast_tenPower, Nat.cast_mul (m * tenPower k)]
    have hraw : ((m * tenPower k : Nat) : ℚ) * 4294967296 = (m * tenPower k * 4294967296 : Nat) := by
      rw [Nat.cast_mul (m * tenPower k), Nat.cast_ofNat]
    rw [toRaw?_of_nonpos fun hm => by simpa using hzero hm, hvalue, roundTo_eq_self hplaces, hraw,
      nearestNat_natCast]
  obtain ⟨k, rfl⟩ : ∃ k : Nat, scale = (k : Int) := ⟨scale.natAbs, by omega⟩
  have hvalue : Scaled.value ⟨m, (k : Int)⟩ = (m : ℚ) / 10 ^ k := by
    rw [Scaled.value, zpow_natCast]
  have hpower : (10 : ℚ) ^ k ≠ 0 := by positivity
  rw [Scaled.toRaw?, if_neg (Int.not_le.2 hscale), hvalue]
  dsimp only
  rw [Int.toNat_natCast]
  split
  · next hk =>
    have hsmall : (m : ℚ) / 10 ^ k * 10 ^ 28 + 1 / 2 < 1 := by
      have hm : (m : ℚ) < 10 ^ 38 := by
        rw [← natCast_tenPower]
        exact Nat.cast_lt.2 hlow
      have hk : (10 : ℚ) ^ 67 ≤ 10 ^ k := pow_le_pow_right₀ (by norm_num) hk
      have hquotient : (m : ℚ) / 10 ^ k < 1 / 10 ^ 29 := by
        rw [div_lt_div_iff₀ (by positivity) (by positivity), one_mul]
        calc (m : ℚ) * 10 ^ 29
          _ < 10 ^ 38 * 10 ^ 29 := by gcongr
          _ = 10 ^ 67 := by norm_num
          _ ≤ 10 ^ k := hk
      calc (m : ℚ) / 10 ^ k * 10 ^ 28 + 1 / 2
        _ < 1 / 10 ^ 29 * 10 ^ 28 + 1 / 2 := by gcongr
        _ < 1 := by norm_num
    have hround : nearestNat ((m : ℚ) / 10 ^ k * 10 ^ 28) = 0 :=
      nearestNat_eq (by positivity) (by rwa [Nat.cast_zero, zero_add])
    rw [roundTo, hround, Nat.cast_zero, zero_div, zero_mul]
    exact congrArg below128 (nearestNat_natCast 0).symm
  split
  · next hk =>
    have hdrop : (m : ℚ) / 10 ^ k * 10 ^ 28 = m / 10 ^ (k - 28) := by
      obtain ⟨j, rfl⟩ : ∃ j, k = j + 28 := ⟨k - 28, by omega⟩
      rw [Nat.add_sub_cancel, pow_add]
      field_simp
    rw [dropDigits_eq, divideScaled?_eq _ (Nat.le_refl 28), roundTo, hdrop]
  · next hk =>
    have hplaces : (m : ℚ) / 10 ^ k * 10 ^ 28 = (m * tenPower (28 - k) : Nat) := by
      obtain ⟨j, hj⟩ : ∃ j, 28 = k + j := ⟨28 - k, by omega⟩
      rw [hj, Nat.add_sub_cancel_left, pow_add, Nat.cast_mul, natCast_tenPower]
      field_simp
    rw [divideScaled?_eq _ (Nat.not_lt.1 hk), roundTo_eq_self hplaces]

/-! ## Reading canonical text -/

namespace Literal

/-- The number of a literal. -/
def value (l : Literal) : ℚ :=
  withSign l.negative l.magnitude

/-- The magnitude that is rounded to a raw value: only some digits after the point are read, and at most
28 decimal places of the number are kept. -/
def kept (l : Literal) : ℚ :=
  roundTo 28 l.cut.magnitude

/-- A literal that is refused whatever its number: with more than 20 digits before the point, or with
an exponent that takes the exponent itself or the number of places out of 32 bits. -/
def Refused (l : Literal) : Prop :=
  20 < l.wholeDigits.length ∨ ¬IsInt32 l.exponent ∨
    (l.cut.magnitude ≠ 0 ∧ 2147483648 ≤ (l.fractionDigits.length : Int) - l.exponent)

instance (l : Literal) : Decidable l.Refused :=
  inferInstanceAs (Decidable (_ ∨ _ ∨ (_ ∧ _)))

theorem magnitude_nonneg (l : Literal) : 0 ≤ l.magnitude := by
  rw [magnitude, fractionValue]
  positivity

theorem kept_nonneg (l : Literal) : 0 ≤ l.kept := by
  rw [kept, roundTo]
  positivity

/-- Nothing is dropped of a number with few digits after the point and at most 28 decimal places. -/
theorem kept_eq_magnitude {l : Literal} (hfraction : l.fraction.length ≤ l.fractionLimit)
    (hplaces : (l.fraction.length : Int) - l.exponent ≤ 28) : l.kept = l.magnitude := by
  have hcut : l.cut = l := by
    rw [cut, List.take_of_length_le hfraction]
  have hlength : l.fractionDigits.length ≤ l.fraction.length := by
    obtain ⟨k, hk⟩ := eq_append_zeros l.fraction
    have hsum := congrArg List.length hk
    have hread := List.length_take_le' l.fractionLimit (l.fraction.reverse.dropWhile (· = '0')).reverse
    rw [List.length_append] at hsum
    rw [fractionDigits]
    omega
  obtain ⟨j, hj⟩ : ∃ j : Nat, (28 : Int) = (l.fractionDigits.length - l.exponent) + j :=
    ⟨(28 - (l.fractionDigits.length - l.exponent)).toNat, by omega⟩
  have hpower : (10 : ℚ) ^ ((l.fractionDigits.length : Int) - l.exponent) ≠ 0 := by positivity
  have htotal : (10 : ℚ) ^ 28 = 10 ^ ((l.fractionDigits.length : Int) - l.exponent) * 10 ^ j := by
    rw [← zpow_natCast, ← zpow_natCast, ← zpow_add₀ (by norm_num), ← hj]
    rfl
  have hplaces : l.cut.magnitude * 10 ^ 28 =
      (ofDigits (l.wholeDigits ++ l.fractionDigits) * tenPower j : Nat) := by
    rw [magnitude_cut, Scaled.value, htotal, Nat.cast_mul, natCast_tenPower, ← mul_assoc,
      div_mul_cancel₀ _ hpower]
  rw [kept, roundTo_eq_self hplaces, hcut]

theorem magnitude_cut_eq_zero_iff (l : Literal) :
    l.cut.magnitude = 0 ↔ ofDigits (l.wholeDigits ++ l.fractionDigits) = 0 := by
  have hpower : (10 : ℚ) ^ ((l.fractionDigits.length : Int) - l.exponent) ≠ 0 := by positivity
  rw [magnitude_cut, Scaled.value, div_eq_zero_iff, or_iff_left hpower, Nat.cast_eq_zero]

theorem scaled?_eq_none {l : Literal} (hall : allDigits (l.wholeDigits ++ l.fractionDigits) = true)
    (h : 20 < l.wholeDigits.length ∨
      (l.cut.magnitude ≠ 0 ∧ 2147483648 ≤ (l.fractionDigits.length : Int) - l.exponent)) :
    l.scaled? = none := by
  rw [scaled?]
  split
  · rfl
  · next hlength =>
    obtain ⟨hsome, hscale⟩ := h.resolve_left hlength
    rw [gather?_eq hall (l.length_digits_le (Nat.not_lt.1 hlength)), Option.bind_eq_bind,
      Option.bind_some, if_neg (mt l.magnitude_cut_eq_zero_iff.2 hsome), if_neg (Int.not_lt.2 hscale)]

/-- What is not refused is gathered into its significand and scale. -/
theorem exists_scaled? {l : Literal} (hall : allDigits (l.wholeDigits ++ l.fractionDigits) = true)
    (h : ¬l.Refused) :
    ∃ s, l.scaled? = some s ∧ s.value = l.cut.magnitude ∧ s.significand < tenPower 38 ∧
      (s.significand = 0 → s.scale = 0) := by
  obtain ⟨hlength, hrest⟩ := not_or.1 h
  obtain ⟨-, hscale⟩ := not_or.1 hrest
  have hdigits := l.length_digits_le (Nat.not_lt.1 hlength)
  have hbound := Nat.lt_of_lt_of_le (ofDigits_lt hall) (tenPower_le hdigits)
  rw [scaled?, if_neg hlength, gather?_eq hall hdigits, Option.bind_eq_bind, Option.bind_some]
  split
  · next hzero =>
    refine ⟨_, rfl, ?_, tenPower_pos 38, fun _ => rfl⟩
    rw [l.magnitude_cut_eq_zero_iff.2 hzero, Scaled.value, Nat.cast_zero, zero_div]
  · next hsome =>
    have hscale : (l.fractionDigits.length : Int) - l.exponent < 2147483648 :=
      Int.not_le.1 fun hle => hscale ⟨mt l.magnitude_cut_eq_zero_iff.1 hsome, hle⟩
    exact ⟨_, if_pos hscale, l.magnitude_cut.symm, hbound, fun hzero => (hsome hzero).elim⟩

end Literal

section

variable {cs : List Char} {l : Literal} (h : l.WrittenAs cs)
include h

theorem ofDecimal?_of_refused (hrefused : l.Refused) : ofDecimal? cs = none := by
  obtain ⟨-, -, -, hwhole, hfraction, -⟩ := id h
  have hall := Literal.allDigits_digits hwhole hfraction
  rw [ofDecimal?, Literal.read?_of_writtenAs h]
  by_cases hexponent : IsInt32 l.exponent
  · rw [if_pos hexponent, Option.bind_eq_bind, Option.bind_some, Literal.scaled?_eq_none hall]
    · rfl
    · rcases hrefused with hlength | hint | hscale
      · exact .inl hlength
      · exact absurd hexponent hint
      · exact .inr hscale
  · rw [if_neg hexponent]
    rfl

/-- **What is read is the number nearest to the magnitude that is kept.** -/
theorem ofDecimal?_of_not_refused (haccepted : ¬l.Refused) :
    ofDecimal? cs = nearest? (withSign l.negative l.kept) := by
  obtain ⟨-, -, -, hwhole, hfraction, -⟩ := id h
  have hexponent : IsInt32 l.exponent := by
    by_contra hint
    exact haccepted (.inr (.inl hint))
  obtain ⟨s, hs, hvalue, hlow, hzero⟩ :=
    Literal.exists_scaled? (Literal.allDigits_digits hwhole hfraction) haccepted
  rw [ofDecimal?, Literal.read?_of_writtenAs h, if_pos hexponent, Option.bind_eq_bind,
    Option.bind_some, hs, Option.bind_eq_bind, Option.bind_some, Scaled.toRaw?_eq hlow hzero, hvalue,
    nearest?_withSign _ l.kept_nonneg]
  exact narrow?_below128 _ _

/-- **Reading is exact as long as nothing is dropped.** -/
theorem ofDecimal?_of_kept (haccepted : ¬l.Refused) (hkept : l.kept = l.magnitude) :
    ofDecimal? cs = nearest? l.value := by
  rw [ofDecimal?_of_not_refused h haccepted, hkept, Literal.value]

/-- **Where reading is exact.** A text that is refused should be refused only if no word holds the number
nearest to its value. Any other text is read as the number nearest to what is kept of its value, and that
is the right one exactly if no point half way between two numbers has only one of them above it. -/
theorem ofDecimal?_eq_nearest?_iff :
    (l.Refused → ofDecimal? cs = none) ∧
    (¬l.Refused → ofDecimal? cs = nearest? (withSign l.negative l.kept)) ∧
    (ofDecimal? cs = nearest? l.value ↔
      if l.Refused then nearest? l.value = none
      else ∀ k ≤ largest l.negative,
        (k : ℚ) + 1 / 2 ≤ l.kept * 4294967296 ↔ (k : ℚ) + 1 / 2 ≤ l.magnitude * 4294967296) := by
  refine ⟨ofDecimal?_of_refused h, ofDecimal?_of_not_refused h, ?_⟩
  split
  · next hrefused => rw [ofDecimal?_of_refused h hrefused, eq_comm]
  · next haccepted =>
    rw [ofDecimal?_of_not_refused h haccepted, Literal.value,
      nearest?_withSign_eq_iff l.kept_nonneg l.magnitude_nonneg]

end

/-- `-12.50e-1` is read exactly. -/
theorem ofDecimal?_eq_nearest?_iff_negative :
    ∃ l : Literal, l.WrittenAs "-12.50e-1".toList ∧ ¬l.Refused ∧
      ofDecimal? "-12.50e-1".toList = nearest? l.value := by
  have htext : "-12.50e-1".toList = ['-'] ++ (['1', '2'] ++ '.' :: ['5', '0']) ++ ['e', '-', '1'] := rfl
  have hexponent : ExponentText (-1) ['e', '-', '1'] :=
    @ExponentText.marked 'e' true ['-'] ['1'] rfl .minus (List.cons_ne_nil _ _) rfl
  have hwritten : Literal.WrittenAs ⟨true, ['1', '2'], ['5', '0'], -1⟩ "-12.50e-1".toList := by
    rw [htext]
    exact .parts .minus (.point _) hexponent rfl rfl fun h => List.cons_ne_nil _ _ h.1
  have haccepted : ¬Literal.Refused ⟨true, ['1', '2'], ['5', '0'], -1⟩ := by
    rintro (hlength | hint | ⟨-, hscale⟩)
    · exact absurd hlength (by decide)
    · exact hint (by decide)
    · exact absurd hscale (by decide)
  obtain ⟨-, -, hiff⟩ := ofDecimal?_eq_nearest?_iff hwritten
  refine ⟨_, hwritten, haccepted, hiff.2 ?_⟩
  rw [if_neg haccepted, Literal.kept_eq_magnitude (by decide) (by decide)]
  exact fun _ _ => Iff.rfl

/-- Digits that the exponent brings in front of the point are lost: this text is a one, and is read as
zero. -/
theorem ofDecimal?_shifted_fraction :
    ∃ l : Literal, l.WrittenAs "0.00000000000000000000000000001e29".toList ∧ l.value = 1 ∧
      nearest? l.value = some one ∧
      ofDecimal? "0.00000000000000000000000000001e29".toList = some zero := by
  have htext : "0.00000000000000000000000000001e29".toList =
      [] ++ (['0'] ++ '.' :: (List.replicate 28 '0' ++ ['1'])) ++ ['e', '2', '9'] := rfl
  have hexponent : ExponentText 29 ['e', '2', '9'] :=
    @ExponentText.marked 'e' false [] ['2', '9'] rfl .absent (List.cons_ne_nil _ _) rfl
  have hwritten : Literal.WrittenAs ⟨false, ['0'], List.replicate 28 '0' ++ ['1'], 29⟩
      "0.00000000000000000000000000001e29".toList := by
    rw [htext]
    exact .parts .absent (.point _) hexponent rfl rfl fun h => List.cons_ne_nil _ _ h.1
  have hvalue : Literal.value ⟨false, ['0'], List.replicate 28 '0' ++ ['1'], 29⟩ = 1 := by
    have hwhole : ofDigits ['0'] = 0 := rfl
    have hfraction : ofDigits (List.replicate 28 '0' ++ ['1']) = 1 := rfl
    rw [Literal.value, Literal.magnitude, fractionValue, hwhole, hfraction]
    norm_num [withSign]
  have hone : nearest? 1 = some one := by
    have hraw : nearestNat (1 * 4294967296) = 4294967296 := by
      rw [one_mul]
      exact_mod_cast nearestNat_natCast 4294967296
    exact (nearest?_withSign false zero_le_one).trans (by rw [hraw]; rfl)
  exact ⟨_, hwritten, hvalue, hvalue ▸ hone, by decide⟩

end Formulary.Fixed
