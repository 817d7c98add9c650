import Formulary.Proofs.Number.Nearest

/-!
# Proofs/Number/Exact — arithmetic is exact or an overflow

Fixed-point arithmetic computes an integer and asks for a word that holds it, and `Delivers` says so of an
outcome. The integers are the exact sum, difference and opposite, the product rounded down and the
quotient cut off towards zero, each of raw values (`arithmetic_exact`). Products and quotients take more
than a word: in words of 128 bits none of them overflows, so that wrapping arithmetic on such words gives
the same integers.
-/

namespace Formulary

/-! ## Towards zero -/

/-- The integer next to a rational on the side of zero. -/
def towardsZero (q : ℚ) : Int :=
  if q < 0 then ⌈q⌉ else ⌊q⌋

theorem towardsZero_neg (q : ℚ) : towardsZero (-q) = -towardsZero q := by
  unfold towardsZero
  rcases lt_trichotomy q 0 with hq | rfl | hq
  · rw [if_pos hq, if_neg (by linarith), Int.floor_neg]
  · rw [neg_zero, if_neg (lt_irrefl 0), Int.floor_zero, neg_zero]
  · rw [if_pos (by linarith), if_neg (by linarith), Int.ceil_neg]

theorem towardsZero_natCast_div (m n : Nat) : towardsZero (m / n : ℚ) = (m / n : Nat) := by
  have hpos : ¬(m / n : ℚ) < 0 := not_lt.2 (by positivity)
  rw [towardsZero, if_neg hpos]
  exact Rat.floor_intCast_div_natCast m n

/-- **The division of integers that cuts off** is the one of rationals, towards zero. -/
theorem towardsZero_intCast_div (a b : Int) : towardsZero (a / b : ℚ) = a.tdiv b := by
  obtain ⟨m, rfl | rfl⟩ := a.eq_nat_or_neg <;> obtain ⟨n, rfl | rfl⟩ := b.eq_nat_or_neg
  · exact towardsZero_natCast_div m n
  · rw [Int.tdiv_neg, Int.cast_neg, div_neg, towardsZero_neg]
    exact congrArg Neg.neg (towardsZero_natCast_div m n)
  · rw [Int.neg_tdiv, Int.cast_neg, neg_div, towardsZero_neg]
    exact congrArg Neg.neg (towardsZero_natCast_div m n)
  · rw [Int.tdiv_neg, Int.neg_tdiv, neg_neg, Int.cast_neg, Int.cast_neg, neg_div_neg_eq]
    exact towardsZero_natCast_div m n

namespace Fixed

/-! ## Words of 128 bits -/

/-- The raw value in a word of 128 bits. -/
def wide (x : Fixed) : BitVec 128 :=
  x.raw.toBitVec.signExtend 128

theorem toInt_wide (x : Fixed) : x.wide.toInt = x.rawInt :=
  BitVec.toInt_signExtend_of_le (by decide)

theorem natAbs_rawInt_le (x : Fixed) : x.rawInt.natAbs ≤ 2 ^ 63 := by
  have hlow := neg_le_rawInt x
  have hhigh := rawInt_lt x
  omega

/-- What is small enough is not wrapped. -/
theorem bmod_eq_self {i : Int} (h : i.natAbs ≤ 2 ^ 126) : i.bmod (2 ^ 128) = i :=
  Int.bmod_eq_of_le (by omega) (by omega)

theorem natAbs_mul_le {i j : Int} (hi : i.natAbs ≤ 2 ^ 63) (hj : j.natAbs ≤ 2 ^ 63) :
    (i * j).natAbs ≤ 2 ^ 126 := by
  rw [Int.natAbs_mul]
  exact le_trans (Nat.mul_le_mul hi hj) (by decide)

/-- A product of two raw values does not overflow. -/
theorem toInt_wide_mul (a b : Fixed) : (a.wide * b.wide).toInt = wideProduct a b := by
  rw [BitVec.toInt_mul, toInt_wide, toInt_wide]
  exact bmod_eq_self (natAbs_mul_le (natAbs_rawInt_le a) (natAbs_rawInt_le b))

/-- Nothing is shifted out of the word. -/
theorem toInt_wide_shiftLeft (a : Fixed) : (a.wide <<< 32).toInt = wideDividend a := by
  have hunit : (BitVec.twoPow 128 32).toInt = unit := by decide
  rw [BitVec.shiftLeft_eq_mul_twoPow, BitVec.toInt_mul, toInt_wide, hunit]
  exact bmod_eq_self (natAbs_mul_le (natAbs_rawInt_le a) (by decide))

/-- Shifting back rounds down. -/
theorem toInt_wide_mul_sshiftRight (a b : Fixed) :
    ((a.wide * b.wide).sshiftRight 32).toInt = wideProduct a b / unit := by
  rw [BitVec.toInt_sshiftRight, toInt_wide_mul, Int.shiftRight_eq_div_pow]
  rfl

/-- No quotient overflows, not even the one of the smallest number by the largest negative one. -/
theorem toInt_wide_sdiv (a b : Fixed) :
    ((a.wide <<< 32).sdiv b.wide).toInt = (wideDividend a).tdiv b.rawInt := by
  rw [BitVec.toInt_sdiv, toInt_wide_shiftLeft, toInt_wide]
  refine bmod_eq_self ?_
  rw [Int.natAbs_tdiv]
  exact le_trans (Nat.div_le_self _ _) (natAbs_mul_le (natAbs_rawInt_le a) (by decide))

/-! ## Outcomes -/

/-- An outcome is an integer as a raw value if a word holds it, and an overflow otherwise. -/
def Delivers (outcome : Except ArithmeticError Fixed) (i : Int) : Prop :=
  if Fits i then ∃ x, outcome = .ok x ∧ x.rawInt = i else outcome = .error .overflow

namespace Delivers

variable {outcome : Except ArithmeticError Fixed} {i : Int}

theorem orOverflow (i : Int) : Delivers (orOverflow (narrow? i)) i := by
  by_cases hi : Fits i
  · rw [Delivers, if_pos hi, narrow?_of_fits hi]
    exact ⟨ofRaw i, rfl, rawInt_ofRaw hi⟩
  · rw [Delivers, if_neg hi, narrow?_of_not_fits hi]
    rfl

theorem ok (x : Fixed) : Delivers (.ok x) x.rawInt := by
  have hx : Fits x.rawInt := ⟨neg_le_rawInt x, rawInt_lt x⟩
  rw [Delivers, if_pos hx]
  exact ⟨x, rfl, rfl⟩

theorem of_fits (h : Delivers outcome i) (hi : Fits i) : ∃ x, outcome = .ok x ∧ x.rawInt = i := by
  rwa [Delivers, if_pos hi] at h

theorem rawInt_eq (h : Delivers outcome i) {x : Fixed} (hx : outcome = .ok x) : x.rawInt = i := by
  unfold Delivers at h
  split at h
  · obtain ⟨y, hy, hi⟩ := h
    rw [hx] at hy
    cases hy
    exact hi
  · rw [hx] at h
    cases h

/-- Overflow is the only error. -/
theorem eq_error_iff (h : Delivers outcome i) {error : ArithmeticError} :
    outcome = .error error ↔ error = .overflow ∧ ¬Fits i := by
  unfold Delivers at h
  split at h
  · next hi =>
    obtain ⟨x, rfl, -⟩ := h
    exact ⟨nofun, fun hnot => absurd hi hnot.2⟩
  · next hi =>
    rw [h, Except.error.injEq, and_iff_left hi, eq_comm]

end Delivers

/-! ## The operations -/

theorem delivers_neg (a : Fixed) : Delivers (neg a) (-a.rawInt) :=
  .orOverflow _

theorem delivers_add (a b : Fixed) : Delivers (add a b) (a.rawInt + b.rawInt) :=
  .orOverflow _

theorem delivers_sub (a b : Fixed) : Delivers (sub a b) (a.rawInt - b.rawInt) :=
  .orOverflow _

theorem wideProduct_div_unit (a b : Fixed) :
    wideProduct a b / unit = ⌊(a.rawInt * b.rawInt : ℚ) / 2 ^ 32⌋ := by
  have hfloor := Rat.floor_intCast_div_natCast (wideProduct a b) 4294967296
  rw [wideProduct, Int.cast_mul] at hfloor
  norm_num at hfloor ⊢
  exact hfloor.symm

theorem delivers_mul (a b : Fixed) : Delivers (mul a b) ⌊(a.rawInt * b.rawInt : ℚ) / 2 ^ 32⌋ := by
  rw [← wideProduct_div_unit]
  exact .orOverflow _

theorem wideDividend_tdiv (a b : Fixed) :
    (wideDividend a).tdiv b.rawInt = towardsZero (a.rawInt * 2 ^ 32 / b.rawInt : ℚ) := by
  have hcast : (a.rawInt * 2 ^ 32 : ℚ) = (wideDividend a : Int) := by
    rw [wideDividend, Int.cast_mul, unit]
    norm_num
  rw [hcast, towardsZero_intCast_div]

theorem delivers_div {a b : Fixed} (hb : b.rawInt ≠ 0) :
    Delivers (div a b) (towardsZero (a.rawInt * 2 ^ 32 / b.rawInt : ℚ)) := by
  rw [← wideDividend_tdiv, div, if_neg hb, div?, if_neg hb]
  exact .orOverflow _

theorem div_eq_divideByZero_iff {a b : Fixed} : div a b = .error .divideByZero ↔ b.rawInt = 0 := by
  constructor
  · intro h
    by_contra hb
    cases ((delivers_div hb).eq_error_iff.1 h).1
  · exact fun hb => if_pos hb

theorem mod_eq_divideByZero_iff {a b : Fixed} : mod a b = .error .divideByZero ↔ b.rawInt = 0 := by
  constructor
  · intro h
    by_contra hb
    rw [mod, if_neg hb] at h
    cases h
  · exact fun hb => if_pos hb

/-- A remainder is smaller than its divisor. -/
theorem natAbs_tmod_lt (i : Int) {j : Int} (hj : j ≠ 0) : (i.tmod j).natAbs < j.natAbs := by
  rw [Int.natAbs_tmod]
  exact Nat.mod_lt _ (Int.natAbs_pos.2 hj)

/-- A remainder is zero or has the sign of its dividend. -/
theorem tmod_eq_zero_or_sign_eq (i j : Int) : i.tmod j = 0 ∨ (i.tmod j).sign = i.sign := by
  have hsign := Int.sign_tmod i j
  split at hsign
  · exact .inl (Int.sign_eq_zero_iff_zero.1 hsign)
  · exact .inr hsign

theorem fits_tmod {a b : Fixed} (hb : b.rawInt ≠ 0) : Fits (a.rawInt.tmod b.rawInt) := by
  have hsmall := natAbs_tmod_lt a.rawInt hb
  have hword := natAbs_rawInt_le b
  rw [Fits]
  omega

/-- **There is a remainder for every divisor but zero**, also where the quotient of the raw values does not
fit: it is zero there. -/
theorem exists_mod {a b : Fixed} (hb : b.rawInt ≠ 0) :
    ∃ r, mod a b = .ok r ∧ r.rawInt = a.rawInt.tmod b.rawInt := by
  rw [mod, if_neg hb, mod?]
  by_cases hcorner : a = minValue ∧ b.rawInt = -1
  · rw [if_pos (.inr hcorner), hcorner.2, Int.tmod_neg, Int.tmod_one]
    exact ⟨zero, rfl, rfl⟩
  · rw [if_neg (not_or.2 ⟨hb, hcorner⟩), narrow?_of_fits (fits_tmod hb)]
    exact ⟨_, rfl, rawInt_ofRaw (fits_tmod hb)⟩

/-- **Arithmetic is exact or an overflow.** Sums, differences and opposites are the exact ones, products
are rounded down and quotients cut off towards zero, and what no word holds is an overflow. Only a division
by zero is one. A remainder belongs to the quotient that is cut off. In words of 128 bits, products and
quotients come out as over the integers: nothing overflows on the way. -/
theorem arithmetic_exact (a b : Fixed) :
    (Delivers (add a b) (a.rawInt + b.rawInt) ∧ Delivers (sub a b) (a.rawInt - b.rawInt) ∧
      Delivers (neg a) (-a.rawInt) ∧ Delivers (mul a b) ⌊(a.rawInt * b.rawInt : ℚ) / 2 ^ 32⌋) ∧
    ((div a b = .error .divideByZero ↔ b.rawInt = 0) ∧
      (b.rawInt ≠ 0 → Delivers (div a b) (towardsZero (a.rawInt * 2 ^ 32 / b.rawInt : ℚ)))) ∧
    ((mod a b = .error .divideByZero ↔ b.rawInt = 0) ∧
      (b.rawInt ≠ 0 → ∃ r, mod a b = .ok r ∧
        a.rawInt = b.rawInt * towardsZero (a.rawInt / b.rawInt : ℚ) + r.rawInt ∧
          |r.rawInt| < |b.rawInt| ∧ (r.rawInt = 0 ∨ r.rawInt.sign = a.rawInt.sign))) ∧
    ((a.wide * b.wide).toInt = a.rawInt * b.rawInt ∧
      mul? a b = narrow? ((a.wide * b.wide).sshiftRight 32).toInt ∧
      (a.wide <<< 32).toInt = a.rawInt * 2 ^ 32 ∧
      (b.rawInt ≠ 0 → div? a b = narrow? ((a.wide <<< 32).sdiv b.wide).toInt)) := by
  refine ⟨⟨delivers_add a b, delivers_sub a b, delivers_neg a, delivers_mul a b⟩,
    ⟨div_eq_divideByZero_iff, delivers_div⟩, ⟨mod_eq_divideByZero_iff, fun hb => ?_⟩,
    toInt_wide_mul a b, ?_, toInt_wide_shiftLeft a, fun hb => ?_⟩
  · obtain ⟨r, hmod, hr⟩ := exists_mod (a := a) hb
    refine ⟨r, hmod, ?_⟩
    rw [towardsZero_intCast_div, hr, Int.mul_tdiv_add_tmod, Int.abs_eq_natAbs, Int.abs_eq_natAbs]
    exact ⟨rfl, Int.ofNat_lt.2 (natAbs_tmod_lt _ hb), tmod_eq_zero_or_sign_eq _ _⟩
  · rw [toInt_wide_mul_sshiftRight, mul?]
  · rw [toInt_wide_sdiv, div?, if_neg hb]

/-- The smallest number has no quotient by the largest negative one, but a remainder. -/
theorem arithmetic_exact_smallest :
    (ofRaw (-1)).rawInt ≠ 0 ∧ div minValue (ofRaw (-1)) = .error .overflow ∧
      mod minValue (ofRaw (-1)) = .ok zero := by
  have hraw : (ofRaw (-1)).rawInt = -1 := rawInt_ofRaw (by decide)
  have hmin : minValue.rawInt = -9223372036854775808 := rawInt_ofRaw (by decide)
  have hb : (ofRaw (-1)).rawInt ≠ 0 := by rw [hraw]; decide
  obtain ⟨-, ⟨-, hdiv⟩, ⟨-, hmod⟩, -⟩ := arithmetic_exact minValue (ofRaw (-1))
  refine ⟨hb, (hdiv hb).eq_error_iff.2 ⟨rfl, ?_⟩, ?_⟩
  · have hquotient := wideDividend_tdiv minValue (ofRaw (-1))
    rw [← hquotient, wideDividend, hraw, hmin]
    decide
  · obtain ⟨r, hr, -, hsmall, -⟩ := hmod hb
    rw [hraw] at hsmall
    have hzero : r.rawInt = zero.rawInt := Int.abs_lt_one_iff.1 hsmall
    rw [hr, rawInt_injective hzero]

end Fixed

end Formulary
