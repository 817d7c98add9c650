import Formulary.Number.Binary64.Parts

/-!
# Proofs/Number/Parts — a float and its parts

The parts of a float lose nothing: `Parts.bits` puts its bit pattern together again, so that floats
with the same parts are the same float. A finite float is a number of units of which 53 bits say
everything, `Representable`.
-/

namespace Formulary.Binary64

/-! ## Bit patterns -/

theorem toBits_injective {x y : Float} (h : x.toBits = y.toBits) : x = y := by
  obtain ⟨⟨bits, _⟩⟩ := x
  obtain ⟨⟨bits', _⟩⟩ := y
  have hbits : bits = bits' := h
  subst hbits
  rfl

/-- There is only one float that is no number. -/
theorem toBits_of_nan {x : Float} (hbiased : x.toBits.toNat / fractionRange % 2048 = 2047)
    (hfraction : x.toBits.toNat % fractionRange ≠ 0) : x.toBits.toNat = 0x7FF8000000000000 := by
  obtain ⟨⟨bits, hvalid⟩⟩ := x
  change bits.toNat / 4503599627370496 % 2048 = 2047 at hbiased
  change bits.toNat % 4503599627370496 ≠ 0 at hfraction
  have hexponent : @Float.Model.UnpackedFloat.unpackExponent
      Float.Model.Format.binary64 bits.toBitVec = (-1#_) := by
    apply BitVec.eq_of_toNat_eq
    simp only [Float.Model.UnpackedFloat.unpackExponent, BitVec.toNat_cast,
      BitVec.extractLsb_toNat, Nat.shiftRight_eq_div_pow, UInt64.toNat_toBitVec]
    exact hbiased
  have hmantissa : @Float.Model.UnpackedFloat.unpackMantissa
      Float.Model.Format.binary64 bits.toBitVec ≠ 0#_ := by
    intro hzero
    have hnat := congrArg BitVec.toNat hzero
    simp only [Float.Model.UnpackedFloat.unpackMantissa, BitVec.toNat_cast,
      BitVec.extractLsb_toNat, Nat.shiftRight_zero, UInt64.toNat_toBitVec] at hnat
    exact hfraction hnat
  have hpacked := congrArg BitVec.toNat (hvalid.eq_packedNaN hexponent hmantissa)
  rw [UInt64.toNat_toBitVec] at hpacked
  exact hpacked.trans (by decide)

/-! ## Units -/

/-- Whether 53 bits hold a number of units, zeros at its end not counted. -/
def Representable (units : Nat) : Prop :=
  1 <<< (units.log2 - 52) ∣ units

/-- A fraction with its leading one has 53 bits. -/
theorem log2_shiftLeft_fraction {fraction : Nat} (h : fraction < fractionRange) (k : Nat) :
    ((fractionRange + fraction) <<< k).log2 = 52 + k := by
  simp only [fractionRange] at h ⊢
  have hpos := Nat.two_pow_pos k
  have hne : (4503599627370496 + fraction) * 2 ^ k ≠ 0 :=
    Nat.mul_ne_zero (by omega) (Nat.ne_of_gt hpos)
  rw [Nat.shiftLeft_eq, Nat.log2_eq_iff hne]
  refine ⟨?_, ?_⟩
  · rw [Nat.pow_add]
    exact Nat.mul_le_mul_right _ (by omega)
  · rw [show 52 + k + 1 = 53 + k by omega, Nat.pow_add]
    exact Nat.mul_lt_mul_of_pos_right (by omega) hpos

theorem log2_fraction_lt {fraction : Nat} (h : fraction < fractionRange) : fraction.log2 < 52 := by
  by_cases hzero : fraction = 0
  · rw [hzero, Nat.log2_zero]
    decide
  · exact (Nat.log2_lt hzero).2 h

/-- The bits that a sign takes. -/
def signBits (negative : Bool) : Nat :=
  if negative then signBit else 0

/-- The bit pattern with these parts. -/
def Parts.bits : Parts → Nat
  | .nan => 0x7FF8000000000000
  | .infinite negative => signBits negative + 2047 * fractionRange
  | .finite negative units =>
    signBits negative + ((units.log2 - 52) * fractionRange + units >>> (units.log2 - 52))

/-- A bit pattern is its sign, its exponent and its fraction. -/
theorem toBits_eq (x : Float) :
    signBits (signBit ≤ x.toBits.toNat) +
      (x.toBits.toNat / fractionRange % 2048 * fractionRange + x.toBits.toNat % fractionRange) =
        x.toBits.toNat := by
  have hlt : x.toBits.toNat < 18446744073709551616 := x.toBits.toNat_lt
  by_cases hsign : signBit ≤ x.toBits.toNat
  · rw [signBits, if_pos (decide_eq_true hsign)]
    simp only [fractionRange, signBit] at hsign ⊢
    omega
  · rw [signBits, if_neg (by simpa using hsign)]
    simp only [fractionRange, signBit] at hsign ⊢
    omega

/-- **The parts of a float say all its bits.** -/
theorem Parts.bits_ofFloat (x : Float) : (Parts.ofFloat x).bits = x.toBits.toNat := by
  have hbits := toBits_eq x
  have hfraction : x.toBits.toNat % fractionRange < fractionRange := Nat.mod_lt _ (by decide)
  simp only [Parts.ofFloat]
  split
  · next hbiased =>
    split
    · next hzero =>
      rw [hbiased, hzero, Nat.add_zero] at hbits
      rw [Parts.bits, hbits]
    · next hzero => rw [Parts.bits, toBits_of_nan hbiased hzero]
  · split
    · next hbiased =>
      rw [hbiased, Nat.zero_mul, Nat.zero_add] at hbits
      rw [Parts.bits, Nat.sub_eq_zero_of_le (Nat.le_of_lt (log2_fraction_lt hfraction)), Nat.zero_mul,
        Nat.zero_add, Nat.shiftRight_zero, hbits]
    · next hbiased =>
      rw [Parts.bits, log2_shiftLeft_fraction hfraction, Nat.add_sub_cancel_left,
        Nat.shiftLeft_shiftRight, ← Nat.add_assoc (_ * _), ← Nat.succ_mul,
        Nat.succ_eq_add_one, Nat.sub_add_cancel (Nat.pos_of_ne_zero hbiased), hbits]

/-- **Floats with the same parts are the same.** -/
theorem Parts.ofFloat_injective {x y : Float} (h : Parts.ofFloat x = Parts.ofFloat y) : x = y := by
  apply toBits_injective
  apply UInt64.toNat_inj.1
  rw [← Parts.bits_ofFloat x, h, Parts.bits_ofFloat]

/-- The units of a float fit into 53 bits. -/
theorem Parts.representable {x : Float} {negative : Bool} {units : Nat}
    (h : Parts.ofFloat x = .finite negative units) : Representable units := by
  have hfraction : x.toBits.toNat % fractionRange < fractionRange := Nat.mod_lt _ (by decide)
  simp only [Parts.ofFloat] at h
  split at h
  · split at h <;> cases h
  · split at h
    · cases h
      rw [Representable, Nat.sub_eq_zero_of_le (Nat.le_of_lt (log2_fraction_lt hfraction))]
      exact Nat.one_dvd _
    · cases h
      rw [Representable, log2_shiftLeft_fraction hfraction, Nat.add_sub_cancel_left,
        Nat.shiftLeft_eq, Nat.shiftLeft_eq, Nat.one_mul]
      exact Nat.dvd_mul_left _ _

end Formulary.Binary64
