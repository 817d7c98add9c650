import Formulary.Number.Binary64.Shortest
import Formulary.Proofs.Number.Parts

/-!
# Proofs/Number/Shortest — the shortest digits name the float

Whatever grid the search settles on, the digits it returns round to the units they were made for
(`nearestUnits_shortest`). A candidate is accepted only if it does; without one, the digits are exact.
-/

namespace Formulary.Binary64

/-! ## Rounding -/

theorem unitDigits_pos : 0 < unitDigits := by
  unfold unitDigits
  generalize 1074 = k
  exact Nat.pow_pos (by decide)

/-- A whole quotient needs no rounding. -/
theorem roundDiv_mul {b : Nat} (hb : 0 < b) (q : Nat) : roundDiv (q * b) b = q := by
  have hlow : 2 * (q * b % b) < b := by rwa [Nat.mul_mod_left]
  rw [roundDiv, if_pos (.inl hlow), Nat.mul_div_cancel _ hb]

/-- A float is nearest to itself. -/
theorem nearestUnits_exactDigits {units : Nat} (h : Representable units) :
    nearestUnits (exactDigits units) = units := by
  obtain ⟨q, hq⟩ := h
  have hgrid : 0 < 1 <<< (units.log2 - 52) := by
    rw [Nat.shiftLeft_eq, Nat.one_mul]
    exact Nat.two_pow_pos _
  have hexact : exactDigits units = q * (unitDigits * 1 <<< (units.log2 - 52)) := by
    rw [exactDigits]
    conv => lhs; rw [hq]
    rw [Nat.mul_comm _ q, Nat.mul_assoc, Nat.mul_comm unitDigits]
  have hdiv : exactDigits units / unitDigits = units := Nat.mul_div_cancel _ unitDigits_pos
  rw [nearestUnits, hdiv, hexact, roundDiv_mul (Nat.mul_pos unitDigits_pos hgrid), Nat.mul_comm]
  exact hq.symm

theorem nearestUnits_zero : nearestUnits 0 = 0 := by
  have hzero : exactDigits 0 = 0 := Nat.zero_mul _
  have hself := nearestUnits_exactDigits (Nat.dvd_zero _ : Representable 0)
  rwa [hzero] at hself

/-! ## Decimals -/

theorem Decimal.exact_zero (exponent : Int) : Decimal.exact ⟨0, exponent⟩ = 0 :=
  Nat.zero_mul _

/-- Moving zeros between the digits and the exponent leaves the number as it is. -/
theorem Decimal.exact_shift (digits zeros : Nat) {exponent : Int} (h : -1074 ≤ exponent) :
    Decimal.exact ⟨digits * Text.tenPower zeros, exponent⟩ =
      Decimal.exact ⟨digits, exponent + zeros⟩ := by
  have hpower : (exponent + zeros + 1074).toNat = zeros + (exponent + 1074).toNat := by omega
  simp only [Decimal.exact, hpower]
  rw [Text.tenPower_add, Nat.mul_assoc]

theorem Decimal.exact_strip (digits : Nat) (exponent : Int) (h : -1074 ≤ exponent) :
    (strip digits exponent).exact = Decimal.exact ⟨digits, exponent⟩ := by
  induction digits, exponent using strip.induct with
  | case1 digits exponent hzero ih =>
    have hten : digits / 10 * Text.tenPower 1 = digits :=
      Nat.div_mul_cancel (Nat.dvd_of_mod_eq_zero hzero.2)
    have hshift := exact_shift (digits / 10) 1 h
    rw [hten] at hshift
    rw [strip, dif_pos hzero, ih (by omega), hshift]
    rfl
  | case2 digits exponent hzero => rw [strip, dif_neg hzero]

/-! ## The search -/

theorem exponent_of_mem_neighbours {exact cut : Nat} {d : Decimal} (h : d ∈ neighbours exact cut) :
    -1074 ≤ d.exponent := by
  simp only [neighbours] at h
  split at h <;>
  · simp only [List.mem_cons, List.not_mem_nil, or_false] at h
    rcases h with rfl | rfl <;> exact (by omega : (-1074 : Int) ≤ cut - 1074)

theorem exponent_of_mem_candidates {units : Nat} {d : Decimal} (h : d ∈ candidates units) :
    -1074 ≤ d.exponent := by
  obtain ⟨i, _, hd⟩ := List.mem_flatMap.1 h
  exact exponent_of_mem_neighbours hd

/-- What the search returns, before the zeros at its end are dropped. -/
theorem shortest_eq_strip {units : Nat} (h : Representable units) :
    ∃ d : Decimal, shortest units = Decimal.strip d.digits d.exponent ∧ -1074 ≤ d.exponent ∧
      nearestUnits d.exact = units := by
  simp only [shortest]
  cases hfound : (candidates units).find? fun d => nearestUnits d.exact == units with
  | some d =>
    exact ⟨d, rfl, exponent_of_mem_candidates (List.mem_of_find?_eq_some hfound),
      by simpa using List.find?_some hfound⟩
  | none =>
    refine ⟨⟨exactDigits units, -1074⟩, rfl, Int.le_refl _, ?_⟩
    have hexact : Decimal.exact ⟨exactDigits units, -1074⟩ = exactDigits units :=
      Nat.mul_one _
    rw [hexact, nearestUnits_exactDigits h]

/-- **The shortest digits round to the float they stand for.** -/
theorem nearestUnits_shortest {units : Nat} (h : Representable units) :
    nearestUnits (shortest units).exact = units := by
  obtain ⟨d, hd, hexponent, hunits⟩ := shortest_eq_strip h
  rw [hd, Decimal.exact_strip _ _ hexponent]
  exact hunits

end Formulary.Binary64
