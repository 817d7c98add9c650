import Formulary.Proofs.Number.Exact

/-!
# Proofs/Number/Whole — rounding to whole numbers

A fixed-point number stands for a rational, its `value`, and the whole numbers next to that are its floor,
its ceiling and its truncation (`rounding_exact`). The first and the last are always fixed-point numbers. A
ceiling overflows above the largest whole number, which truncation never reaches: it takes the ceiling of
negative numbers alone. Shifting and masking the raw word gives the whole part and the fraction.
-/

namespace Formulary

/-! ## Towards zero -/

theorem towardsZero_of_nonneg {q : ℚ} (hq : 0 ≤ q) : towardsZero q = ⌊q⌋ :=
  if_neg (not_lt.2 hq)

theorem towardsZero_of_neg {q : ℚ} (hq : q < 0) : towardsZero q = ⌈q⌉ :=
  if_pos hq

theorem abs_towardsZero_le (q : ℚ) : |(towardsZero q : ℚ)| ≤ |q| := by
  have hpos : ∀ {p : ℚ}, 0 ≤ p → |(towardsZero p : ℚ)| ≤ |p| := by
    intro p hp
    have hfloor : (0 : ℚ) ≤ ⌊p⌋ := Int.cast_nonneg (Int.floor_nonneg.2 hp)
    rw [towardsZero_of_nonneg hp, abs_of_nonneg hfloor, abs_of_nonneg hp]
    exact Int.floor_le p
  rcases le_total 0 q with hq | hq
  · exact hpos hq
  · have h := hpos (neg_nonneg.2 hq)
    rwa [towardsZero_neg, Int.cast_neg, abs_neg, abs_neg] at h

/-- **No integer on the side of zero is nearer.** -/
theorem abs_sub_towardsZero_le {q : ℚ} {n : Int} (hn : |(n : ℚ)| ≤ |q|) :
    |q - towardsZero q| ≤ |q - n| := by
  have hpos : ∀ {p : ℚ} {m : Int}, 0 ≤ p → |(m : ℚ)| ≤ |p| → |p - towardsZero p| ≤ |p - m| := by
    intro p m hp hm
    have hmp : (m : ℚ) ≤ p := by
      rw [abs_of_nonneg hp] at hm
      exact le_trans (le_abs_self _) hm
    have hfloor : (m : ℚ) ≤ ⌊p⌋ := Int.cast_le.2 (Int.le_floor.2 hmp)
    rw [towardsZero_of_nonneg hp, abs_of_nonneg (sub_nonneg.2 (Int.floor_le p)),
      abs_of_nonneg (sub_nonneg.2 hmp)]
    exact sub_le_sub_left hfloor p
  rcases le_total 0 q with hq | hq
  · exact hpos hq hn
  · have h := hpos (m := -n) (neg_nonneg.2 hq) (by rwa [Int.cast_neg, abs_neg, abs_neg])
    rwa [towardsZero_neg, Int.cast_neg, Int.cast_neg, ← neg_sub', abs_neg, ← neg_sub', abs_neg] at h

namespace Fixed

/-! ## Values -/

/-- The rational that a number stands for. -/
def value (x : Fixed) : ℚ :=
  x.rawInt / 2 ^ 32

variable {x : Fixed}

theorem value_eq_intCast {n : Int} (h : x.rawInt = n * unit) : x.value = n := by
  rw [value, h, unit, Int.cast_mul]
  norm_num

theorem value_eq_neg {y : Fixed} (h : y.rawInt = -x.rawInt) : y.value = -x.value := by
  rw [value, value, h, Int.cast_neg, neg_div]

theorem value_neg_iff : x.value < 0 ↔ x.rawInt < 0 := by
  rw [value, div_neg_iff]
  norm_num

/-! ## The whole part -/

theorem rawInt_eq (x : Fixed) : x.rawInt = x.intPart * unit + x.fracPart := by
  rw [intPart, fracPart, unit]
  omega

theorem fracPart_nonneg (x : Fixed) : 0 ≤ x.fracPart :=
  Int.emod_nonneg _ (by decide)

theorem fracPart_lt (x : Fixed) : x.fracPart < unit :=
  Int.emod_lt_of_pos _ (by decide)

theorem floor_value (x : Fixed) : ⌊x.value⌋ = x.intPart := by
  have h := Rat.floor_intCast_div_natCast x.rawInt 4294967296
  norm_num at h
  rw [value, intPart, unit, ← h]
  norm_num

/-- A number with a fraction lies below the whole number after its whole part. -/
theorem ceil_value (x : Fixed) :
    ⌈x.value⌉ = if x.fracPart = 0 then x.intPart else x.intPart + 1 := by
  have h := Rat.ceil_intCast_div_natCast x.rawInt 4294967296
  have hceil : ⌈x.value⌉ = -(-x.rawInt / unit) := by
    rw [value, unit]
    norm_num at h ⊢
    exact h
  rw [hceil, intPart, fracPart, unit]
  split <;> omega

theorem fits_intPart (x : Fixed) : Fits (x.intPart * unit) := by
  have hlow := neg_le_rawInt x
  have hhigh := rawInt_lt x
  rw [Fits, intPart, unit]
  omega

theorem rawInt_floorValue (x : Fixed) : (floorValue x).rawInt = x.intPart * unit :=
  rawInt_ofRaw (fits_intPart x)

/-! ## Shifts and masks -/

/-- Shifting the fraction out of the word leaves the whole part. -/
theorem toInt_shiftRight (x : Fixed) : (x.raw >>> 32).toInt = x.intPart := by
  have hshift : (x.raw >>> 32).toBitVec = x.raw.toBitVec.sshiftRight 32 := by
    simp
  have hraw : (x.raw >>> 32).toInt = (x.raw >>> 32).toBitVec.toInt := rfl
  rw [hraw, hshift, BitVec.toInt_sshiftRight, Int.shiftRight_eq_div_pow]
  rfl

/-- The low bits of the word are the fraction, whatever the sign. -/
theorem toInt_and (x : Fixed) : (x.raw &&& 4294967295).toInt = x.fracPart := by
  have hraw : x.rawInt = x.raw.toBitVec.toInt := rfl
  have hlow : (x.raw.toBitVec &&& 4294967295#64).toNat = x.raw.toBitVec.toNat % 2 ^ 32 :=
    Nat.and_two_pow_sub_one_eq_mod _ 32
  change (x.raw.toBitVec &&& 4294967295#64).toInt = _
  rw [fracPart, hraw, BitVec.toInt_eq_toNat_cond, BitVec.toInt_eq_toNat_cond, hlow, unit]
  split <;> split <;> omega

/-- Clearing the fraction rounds down. -/
theorem floorValue_eq (x : Fixed) : floorValue x = ⟨x.raw &&& ~~~4294967295⟩ := by
  have hraw : x.rawInt = x.raw.toBitVec.toInt := rfl
  have hmask : x.raw.toBitVec &&& ~~~4294967295#64 = x.raw.toBitVec >>> 32 <<< 32 := by
    rw [BitVec.shiftLeft_ushiftRight]
    rfl
  have hclear : (x.raw.toBitVec >>> 32 <<< 32).toNat = x.raw.toBitVec.toNat / 2 ^ 32 * 2 ^ 32 := by
    have hlt := x.raw.toBitVec.isLt
    rw [BitVec.toNat_shiftLeft, BitVec.toNat_ushiftRight, Nat.shiftLeft_eq, Nat.shiftRight_eq_div_pow,
      Nat.mod_eq_of_lt (by omega)]
  refine rawInt_injective ?_
  change _ = (x.raw.toBitVec &&& ~~~4294967295#64).toInt
  rw [rawInt_floorValue, intPart, hraw, hmask, BitVec.toInt_eq_toNat_cond, BitVec.toInt_eq_toNat_cond,
    hclear, unit]
  split <;> split <;> omega

/-! ## Rounding -/

theorem delivers_floor (x : Fixed) : Delivers (floor x) (⌊x.value⌋ * unit) := by
  rw [floor_value, ← rawInt_floorValue]
  exact .ok _

theorem delivers_ceiling (x : Fixed) : Delivers (ceiling x) (⌈x.value⌉ * unit) := by
  rw [ceil_value, ceiling]
  split
  · next hfrac =>
    have hwhole : x.intPart * unit = x.rawInt := by
      rw [rawInt_eq x, hfrac, Int.add_zero]
    rw [hwhole]
    exact .ok x
  · have hone : one.rawInt = unit := rawInt_ofRaw (by decide)
    have hadd := delivers_add (floorValue x) one
    rwa [rawInt_floorValue, hone, ← add_one_mul] at hadd

theorem delivers_truncate (x : Fixed) : Delivers (truncate x) (towardsZero x.value * unit) := by
  rw [truncate]
  split
  · next hneg =>
    rw [towardsZero_of_neg (value_neg_iff.2 hneg)]
    exact delivers_ceiling x
  · next hpos =>
    rw [towardsZero_of_nonneg (not_lt.1 (mt value_neg_iff.1 hpos))]
    exact delivers_floor x

theorem delivers_abs (x : Fixed) : Delivers (abs x) |x.rawInt| := by
  rw [abs]
  split
  · next hneg =>
    rw [abs_of_neg hneg]
    exact delivers_neg x
  · next hpos =>
    rw [abs_of_nonneg (Int.not_lt.1 hpos)]
    exact .ok x

/-- **A ceiling overflows exactly above the largest whole number.** -/
theorem fits_ceil_iff : Fits (⌈x.value⌉ * unit) ↔ x.value ≤ 2 ^ 31 - 1 := by
  have hlow := neg_le_rawInt x
  have hwhole : ⌈x.value⌉ ≤ 2147483647 ↔ x.value ≤ 2 ^ 31 - 1 := by
    rw [Int.ceil_le]
    norm_num
  rw [← hwhole, ceil_value, intPart, Fits, unit]
  split <;> omega

/-- A negative number has a ceiling, so that truncation never overflows. -/
theorem fits_towardsZero (x : Fixed) : Fits (towardsZero x.value * unit) := by
  rcases lt_or_ge x.value 0 with hneg | hpos
  · rw [towardsZero_of_neg hneg, fits_ceil_iff]
    exact le_trans hneg.le (by norm_num)
  · rw [towardsZero_of_nonneg hpos, floor_value]
    exact fits_intPart x

theorem fits_abs_iff : Fits |x.rawInt| ↔ x ≠ minValue := by
  have hmin : minValue.rawInt = -9223372036854775808 := rawInt_ofRaw (by decide)
  have hlow := neg_le_rawInt x
  have hhigh := rawInt_lt x
  have hne : x ≠ minValue ↔ x.rawInt ≠ -9223372036854775808 := by
    rw [← hmin]
    exact ⟨fun h heq => h (rawInt_injective heq), fun h heq => h (congrArg rawInt heq)⟩
  rw [hne, Fits, Int.abs_eq_natAbs]
  omega

/-- **Truncation forgets the sign**: it goes through negation wherever that does. -/
theorem exists_truncate_neg {x x' y : Fixed} (hx' : neg x = .ok x') (hy : truncate x = .ok y) :
    ∃ y', neg y = .ok y' ∧ truncate x' = .ok y' := by
  have hraw : x'.rawInt = -x.rawInt := (delivers_neg x).rawInt_eq hx'
  obtain ⟨y', hy', hvalue'⟩ := (delivers_truncate x').of_fits (fits_towardsZero x')
  have hopposite : y'.rawInt = -y.rawInt := by
    rw [hvalue', (delivers_truncate x).rawInt_eq hy, value_eq_neg hraw, towardsZero_neg, Int.neg_mul]
  have hfits : Fits (-y.rawInt) := by
    rw [← hopposite]
    exact ⟨neg_le_rawInt y', rawInt_lt y'⟩
  obtain ⟨z, hz, hzraw⟩ := (delivers_neg y).of_fits hfits
  refine ⟨z, hz, ?_⟩
  rw [hy', rawInt_injective (hopposite.trans hzraw.symm)]

/-- **Rounding is exact.** A raw value splits into a whole part and a fraction below one, which are its high
and its low bits. The floor is always there, and so is the truncation: the whole number nearest to the
number among those that do not exceed it in magnitude, the same on both sides of zero. The ceiling is there
unless it lies above the largest whole number, and the magnitude unless the number is the smallest one. -/
theorem rounding_exact (x : Fixed) :
    (x.rawInt = x.intPart * 2 ^ 32 + x.fracPart ∧ 0 ≤ x.fracPart ∧ x.fracPart < 2 ^ 32 ∧
      x.intPart = (x.raw >>> 32).toInt ∧ x.fracPart = (x.raw &&& 4294967295).toInt) ∧
    (∃ y, floor x = .ok y ∧ y.value = ⌊x.value⌋ ∧ y.raw = x.raw &&& ~~~4294967295) ∧
    ((∀ y, ceiling x = .ok y → y.value = ⌈x.value⌉) ∧
      ∀ error, ceiling x = .error error ↔ error = .overflow ∧ 2 ^ 31 - 1 < x.value) ∧
    (∃ y, truncate x = .ok y ∧ (∃ n : Int, y.value = n) ∧ |y.value| ≤ |x.value| ∧
      (∀ n : Int, |(n : ℚ)| ≤ |x.value| → |x.value - y.value| ≤ |x.value - n|) ∧
      ∀ x', neg x = .ok x' → ∃ y', neg y = .ok y' ∧ truncate x' = .ok y') ∧
    ((∀ y, abs x = .ok y → y.value = |x.value|) ∧
      ∀ error, abs x = .error error ↔ error = .overflow ∧ x = minValue) := by
  obtain ⟨y, hy, hraw⟩ := (delivers_truncate x).of_fits (fits_towardsZero x)
  have hvalue : y.value = towardsZero x.value := value_eq_intCast hraw
  refine ⟨⟨rawInt_eq x, fracPart_nonneg x, fracPart_lt x, (toInt_shiftRight x).symm, (toInt_and x).symm⟩,
    ⟨floorValue x, rfl, ?_, congrArg raw (floorValue_eq x)⟩, ⟨fun z hz => ?_, fun error => ?_⟩,
    ⟨y, hy, ⟨_, hvalue⟩, ?_, fun n hn => ?_, fun x' hx' => exists_truncate_neg hx' hy⟩,
    fun z hz => ?_, fun error => ?_⟩
  · rw [floor_value]
    exact value_eq_intCast (rawInt_floorValue x)
  · exact value_eq_intCast ((delivers_ceiling x).rawInt_eq hz)
  · rw [(delivers_ceiling x).eq_error_iff, fits_ceil_iff, not_le]
  · rw [hvalue]
    exact abs_towardsZero_le x.value
  · rw [hvalue]
    exact abs_sub_towardsZero_le hn
  · rw [value, (delivers_abs x).rawInt_eq hz, value, abs_div, Int.cast_abs]
    norm_num
  · rw [(delivers_abs x).eq_error_iff, fits_abs_iff, not_not]

/-- Truncating a negative number and its opposite. -/
theorem rounding_exact_opposite :
    neg (ofRaw (-10737418240)) = .ok (ofRaw 10737418240) ∧
      ∃ y y', truncate (ofRaw (-10737418240)) = .ok y ∧ neg y = .ok y' ∧
        truncate (ofRaw 10737418240) = .ok y' := by
  have hneg : neg (ofRaw (-10737418240)) = .ok (ofRaw 10737418240) := rfl
  obtain ⟨-, -, -, ⟨y, hy, -, -, -, hopposite⟩, -⟩ := rounding_exact (ofRaw (-10737418240))
  obtain ⟨y', hy', htruncate⟩ := hopposite _ hneg
  exact ⟨hneg, y, y', hy, hy', htruncate⟩

end Fixed

end Formulary
