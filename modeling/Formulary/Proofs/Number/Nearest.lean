import Mathlib.Algebra.Order.Floor.Semifield
import Mathlib.Data.Rat.Floor
import Mathlib.Tactic.FieldSimp
import Mathlib.Tactic.Linarith
import Mathlib.Tactic.Positivity
import Formulary.Number.Fixed.Basic

/-!
# Proofs/Number/Nearest — the fixed-point number nearest to a rational

Fixed-point numbers lie on a grid, and `Fixed.nearest?` is the point of it nearest to a rational, of two
equally near ones the one away from zero. For natural numbers that is a quotient with its remainder
looked at (`nearestNat_div`). Two rationals have the same nearest number exactly if no point half way
between two numbers has one of them on each side (`Fixed.nearest?_withSign_eq_iff`).
-/

namespace Formulary

/-! ## Natural numbers -/

/-- The natural number nearest to a rational, the larger of two equally near ones. -/
def nearestNat (q : ℚ) : Nat :=
  ⌊q + 1 / 2⌋₊

theorem nearestNat_eq {n : Nat} {q : ℚ} (hlow : (n : ℚ) ≤ q + 1 / 2) (hhigh : q + 1 / 2 < n + 1) :
    nearestNat q = n :=
  (Nat.floor_eq_iff (le_trans (Nat.cast_nonneg n) hlow)).2 ⟨hlow, hhigh⟩

theorem nearestNat_eq_of_abs_lt {n : Nat} {q : ℚ} (h : |q - n| < 1 / 2) : nearestNat q = n := by
  obtain ⟨hlow, hhigh⟩ := abs_lt.1 h
  exact nearestNat_eq (by linarith) (by linarith)

@[simp] theorem nearestNat_natCast (n : Nat) : nearestNat n = n :=
  nearestNat_eq_of_abs_lt (by simp)

/-- A number is exceeded from half way to the next one on. -/
theorem lt_nearestNat_iff {k : Nat} {q : ℚ} : k < nearestNat q ↔ (k : ℚ) + 1 / 2 ≤ q := by
  rw [nearestNat, Nat.lt_iff_add_one_le, Nat.le_floor_iff' (Nat.succ_ne_zero k)]
  push_cast
  constructor <;> intro h <;> linarith

theorem nearestNat_natCast_add (n : Nat) {q : ℚ} (hq : 0 ≤ q) :
    nearestNat (n + q) = n + nearestNat q := by
  have hsum : (n : ℚ) + q + 1 / 2 = q + 1 / 2 + n := by ring
  rw [nearestNat, hsum, Nat.floor_add_natCast (by positivity), Nat.add_comm, nearestNat]

theorem natCast_div_eq {a b : Nat} (hb : 0 < b) :
    (a / b : ℚ) = (a / b : Nat) + ((a % b : Nat) / b : ℚ) := by
  have hb' : (b : ℚ) ≠ 0 := Nat.cast_ne_zero.2 hb.ne'
  have hdiv : (b : ℚ) * (a / b : Nat) + (a % b : Nat) = a := by
    exact_mod_cast Nat.div_add_mod a b
  rw [div_eq_iff hb', add_mul, div_mul_cancel₀ _ hb', mul_comm, hdiv]

/-- **The remainder of a quotient tells where it is rounded to.** -/
theorem nearestNat_div {a b : Nat} (hb : 0 < b) :
    nearestNat (a / b : ℚ) = a / b + if b ≤ a % b * 2 then 1 else 0 := by
  have hb' : (0 : ℚ) < b := Nat.cast_pos.2 hb
  have hlt : ((a % b : Nat) / b : ℚ) < 1 := (div_lt_one hb').2 (Nat.cast_lt.2 (Nat.mod_lt a hb))
  rw [natCast_div_eq hb, nearestNat_natCast_add _ (by positivity)]
  congr 1
  split
  · next h =>
    have hhalf : (1 / 2 : ℚ) ≤ (a % b : Nat) / b := by
      rw [div_le_div_iff₀ two_pos hb', one_mul]
      exact_mod_cast h
    refine nearestNat_eq ?_ ?_ <;> push_cast <;> linarith
  · next h =>
    have hhalf : ((a % b : Nat) / b : ℚ) < 1 / 2 := by
      rw [div_lt_div_iff₀ hb' two_pos, one_mul]
      exact_mod_cast not_le.1 h
    exact nearestNat_eq (by positivity) (by push_cast; linarith)

namespace Fixed

/-! ## Words -/

/-- A magnitude with its sign. -/
def withSign {R : Type} [Neg R] (negative : Bool) (x : R) : R :=
  if negative then -x else x

/-- The largest magnitude that a word holds with a sign. -/
def largest (negative : Bool) : Nat :=
  if negative then 9223372036854775808 else 9223372036854775807

theorem fits_withSign_iff {negative : Bool} {n : Nat} :
    Fits (withSign negative (n : Int)) ↔ n ≤ largest negative := by
  cases negative <;> simp only [Fits, withSign, largest, Bool.false_eq_true, if_true, if_false] <;> omega

theorem narrow?_of_fits {i : Int} (h : Fits i) : narrow? i = some (ofRaw i) :=
  if_pos h

theorem narrow?_of_not_fits {i : Int} (h : ¬Fits i) : narrow? i = none :=
  if_neg h

theorem narrow?_rawInt (x : Fixed) : narrow? x.rawInt = some x := by
  rw [narrow?_of_fits ⟨neg_le_rawInt x, rawInt_lt x⟩, ofRaw_rawInt]

theorem withSign_injective {negative : Bool} {m n : Nat}
    (h : withSign negative (m : Int) = withSign negative (n : Int)) : m = n := by
  cases negative <;> simp only [withSign, Bool.false_eq_true, if_true, if_false] at h <;> omega

/-- Two magnitudes give the same word, or none, exactly if they exceed the same magnitudes of words. -/
theorem narrow?_withSign_eq_iff {negative : Bool} {m n : Nat} :
    narrow? (withSign negative (m : Int)) = narrow? (withSign negative (n : Int)) ↔
      ∀ k ≤ largest negative, k < m ↔ k < n := by
  by_cases hm : m ≤ largest negative <;> by_cases hn : n ≤ largest negative
  · rw [narrow?_of_fits (fits_withSign_iff.2 hm), narrow?_of_fits (fits_withSign_iff.2 hn),
      Option.some.injEq]
    constructor
    · intro h
      have hraw := congrArg rawInt h
      rw [rawInt_ofRaw (fits_withSign_iff.2 hm), rawInt_ofRaw (fits_withSign_iff.2 hn)] at hraw
      rw [withSign_injective hraw]
      exact fun _ _ => Iff.rfl
    · intro h
      have hle := h m hm
      have hge := h n hn
      rw [show m = n by omega]
  · rw [narrow?_of_fits (fits_withSign_iff.2 hm), narrow?_of_not_fits (mt fits_withSign_iff.1 hn)]
    exact ⟨nofun, fun h => absurd ((h m hm).2 (by omega)) (lt_irrefl m)⟩
  · rw [narrow?_of_not_fits (mt fits_withSign_iff.1 hm), narrow?_of_fits (fits_withSign_iff.2 hn)]
    exact ⟨nofun, fun h => absurd ((h n hn).1 (by omega)) (lt_irrefl n)⟩
  · rw [narrow?_of_not_fits (mt fits_withSign_iff.1 hm), narrow?_of_not_fits (mt fits_withSign_iff.1 hn)]
    exact ⟨fun _ k hk => ⟨fun _ => by omega, fun _ => by omega⟩, fun _ => rfl⟩

/-! ## Rationals -/

/-- The integer nearest to a rational, of two equally near ones the one away from zero. -/
def roundAway (q : ℚ) : Int :=
  if q < 0 then -(nearestNat (-q) : Int) else nearestNat q

theorem roundAway_withSign (negative : Bool) {q : ℚ} (hq : 0 ≤ q) :
    roundAway (withSign negative q) = withSign negative (nearestNat q : Int) := by
  have hpositive : roundAway q = nearestNat q := if_neg (not_lt.2 hq)
  cases negative with
  | false => exact hpositive
  | true =>
    change roundAway (-q) = -(nearestNat q : Int)
    rcases hq.eq_or_lt with rfl | hlt
    · have hzero : nearestNat 0 = 0 := by simpa using nearestNat_natCast 0
      rw [neg_zero, hpositive, hzero]
      rfl
    · rw [roundAway, if_pos (neg_lt_zero.2 hlt), neg_neg]

/-- The fixed-point number nearest to a rational, of two equally near ones the one away from zero, if
a word holds it. -/
def nearest? (v : ℚ) : Option Fixed :=
  narrow? (roundAway (v * 4294967296))

theorem nearest?_withSign (negative : Bool) {q : ℚ} (hq : 0 ≤ q) :
    nearest? (withSign negative q) = narrow? (withSign negative (nearestNat (q * 4294967296) : Int)) := by
  have hscale : withSign negative q * 4294967296 = withSign negative (q * 4294967296) := by
    cases negative
    · rfl
    · exact neg_mul q _
  rw [nearest?, hscale, roundAway_withSign negative (by positivity)]

/-- **Where the nearest number changes**: half way between two numbers that a word holds. -/
theorem nearest?_withSign_eq_iff {negative : Bool} {p q : ℚ} (hp : 0 ≤ p) (hq : 0 ≤ q) :
    nearest? (withSign negative p) = nearest? (withSign negative q) ↔
      ∀ k ≤ largest negative,
        (k : ℚ) + 1 / 2 ≤ p * 4294967296 ↔ (k : ℚ) + 1 / 2 ≤ q * 4294967296 := by
  rw [nearest?_withSign negative hp, nearest?_withSign negative hq, narrow?_withSign_eq_iff]
  simp only [lt_nearestNat_iff]

end Fixed

end Formulary
