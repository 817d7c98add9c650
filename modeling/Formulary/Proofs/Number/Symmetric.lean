import Formulary.Proofs.Number.Decimal
import Formulary.Proofs.Number.Printed

/-!
# Proofs/Number/Symmetric — numbers with a sign and numbers negated

A number after a minus sign can be read with its sign, or without it and then be negated. A number type
is `SignSymmetric` if both give the same number, also where one way gives an integer and the other does
not: 32 bits hold one more negative integer than positive ones. Over fixed point that integer has no
positive counterpart at all.
-/

namespace Formulary

open Text

/-- A number type for which reading a number with a minus sign is reading it without and negating it. -/
class SignSymmetric (T : Type) [Numeric T] : Prop extends SignReadable T where
  neg_ofCanonical? : ∀ {cs : List Char} {x y : T}, StopsAt isSign cs →
    Numeric.ofCanonical? cs = some x → Numeric.ofCanonical? ('-' :: cs) = some y →
      Numeric.neg x = .ok y
  neg_ofInt32 : ∀ {n : Nat}, 0 < n → n < 2147483648 →
    Numeric.neg (Numeric.ofInt32 (Int32.ofInt n) : T) = .ok (Numeric.ofInt32 (Int32.ofInt (-n)))
  /-- The smallest integer of 32 bits is the negative of a number that is no such integer. -/
  neg_of_digits : ∀ {cs : List Char} {x : T}, allDigits cs = true → ofDigits cs = 2147483648 →
    Numeric.ofCanonical? cs = some x →
      Numeric.neg x = .ok (Numeric.ofInt32 (Int32.ofInt (-2147483648)))

theorem toInt_ofInt32 {i : Int} (h : Fixed.IsInt32 i) : (Int32.ofInt i).toInt = i :=
  Int32.toInt_ofInt_of_le h.1 h.2

/-! ## Fixed point -/

namespace Fixed

theorem neg_ofRaw {i : Int} (h : Fits i) (hneg : Fits (-i)) : neg (ofRaw i) = .ok (ofRaw (-i)) := by
  rw [neg, neg?, rawInt_ofRaw h, narrow?_of_fits hneg]
  rfl

/-- Reading is rounding a magnitude, and the sign comes last. -/
theorem exists_magnitude_of_ofDecimal? {cs : List Char} {x y : Fixed} (hcs : StopsAt isSign cs)
    (hx : ofDecimal? cs = some x) (hy : ofDecimal? ('-' :: cs) = some y) :
    ∃ magnitude : Nat, narrow? magnitude = some x ∧ narrow? (-(magnitude : Int)) = some y := by
  unfold ofDecimal? at hx hy
  simp only [Option.bind_eq_bind, Option.bind_eq_some_iff] at hx hy
  obtain ⟨literal, hliteral, scaled, hscaled, magnitude, hmagnitude, hx⟩ := hx
  obtain ⟨literal', hliteral', scaled', hscaled', magnitude', hmagnitude', hy⟩ := hy
  obtain ⟨hnegative, hminus⟩ := Literal.read?_minus hcs hliteral
  rw [hminus, Option.some.injEq] at hliteral'
  subst hliteral'
  have hsame : ({ literal with negative := true } : Literal).scaled? = literal.scaled? := rfl
  rw [hsame, hscaled, Option.some.injEq] at hscaled'
  subst hscaled'
  rw [hmagnitude, Option.some.injEq] at hmagnitude'
  subst hmagnitude'
  rw [hnegative] at hx
  exact ⟨magnitude, hx, hy⟩

/-- Digits are a literal without sign, point and exponent. -/
theorem writtenAs_of_allDigits {cs : List Char} (hdigits : allDigits cs = true) (hne : cs ≠ []) :
    Literal.WrittenAs ⟨false, cs, [], 0⟩ cs := by
  have h := Literal.WrittenAs.parts (l := ⟨false, cs, [], 0⟩) .absent .whole .absent hdigits rfl
    fun h => hne h.1
  rwa [List.nil_append, List.append_nil] at h

/-- Digits are refused, or read as the whole number that they write if a word holds it. -/
theorem ofDecimal?_of_allDigits {cs : List Char} (hdigits : allDigits cs = true) (hne : cs ≠ []) :
    ofDecimal? cs = none ∨ ofDecimal? cs = narrow? ((ofDigits cs : Int) * unit) := by
  have hwritten := writtenAs_of_allDigits hdigits hne
  by_cases hrefused : Literal.Refused ⟨false, cs, [], 0⟩
  · exact .inl (ofDecimal?_of_refused hwritten hrefused)
  · have hkept : Literal.kept ⟨false, cs, [], 0⟩ = Literal.magnitude ⟨false, cs, [], 0⟩ :=
      Literal.kept_eq_magnitude (Nat.zero_le _) (Int.le_of_lt (by decide : (0 : Int) < 28))
    have hmagnitude : Literal.magnitude ⟨false, cs, [], 0⟩ = ofDigits cs := by
      simp [Literal.magnitude, fractionValue]
    have hraw : nearestNat ((ofDigits cs : ℚ) * 4294967296) = ofDigits cs * 4294967296 := by
      exact_mod_cast nearestNat_natCast (ofDigits cs * 4294967296)
    rw [ofDecimal?_of_kept hwritten hrefused hkept, Literal.value, hmagnitude,
      nearest?_withSign _ (Nat.cast_nonneg _), hraw]
    exact .inr rfl

/-- `2 ^ 31` is too large for a word with 32 fractional bits. -/
theorem ofDecimal?_of_ofDigits_eq {cs : List Char} (hdigits : allDigits cs = true)
    (hvalue : ofDigits cs = 2147483648) : ofDecimal? cs = none := by
  have hne : cs ≠ [] := by
    rintro rfl
    cases hvalue
  rcases ofDecimal?_of_allDigits hdigits hne with hnone | hread
  · exact hnone
  · rw [hread, hvalue]
    exact narrow?_of_not_fits (by decide)

theorem fits_mul_unit {i : Int} (hlow : -2147483648 ≤ i) (hhigh : i < 2147483648) :
    Fits (i * unit) := by
  rw [Fits, unit]
  omega

instance : SignSymmetric Fixed where
  neg_ofCanonical? {cs x y} hcs hx hy := by
    obtain ⟨magnitude, hx, hy⟩ := exists_magnitude_of_ofDecimal? hcs hx hy
    have hfits := fits_of_narrow? hx
    have hfits' := fits_of_narrow? hy
    rw [narrow?_of_fits hfits] at hx
    rw [narrow?_of_fits hfits'] at hy
    cases hx
    cases hy
    exact neg_ofRaw hfits hfits'
  neg_ofInt32 {n} hpos hlt := by
    have hplus : Fits ((n : Int) * unit) := fits_mul_unit (by omega) (by omega)
    have hminus : Fits (-((n : Int) * unit)) := by
      rw [← Int.neg_mul]
      exact fits_mul_unit (by omega) (by omega)
    change neg (ofRaw _) = .ok (ofRaw _)
    rw [toInt_ofInt32 ⟨by omega, by omega⟩, toInt_ofInt32 ⟨by omega, by omega⟩, neg_ofRaw hplus hminus,
      Int.neg_mul]
  neg_of_digits {cs x} hdigits hvalue hx := by
    have hnone : (Numeric.ofCanonical? cs : Option Fixed) = none :=
      ofDecimal?_of_ofDigits_eq hdigits hvalue
    rw [hnone] at hx
    cases hx

end Fixed

/-! ## Binary floating point -/

namespace Binary64

theorem toLower_of_isDigit {c : Char} (h : c.isDigit = true) : c.toLower = c := by
  refine Char.toLower_eq_of_not_isUpper fun hupper => ?_
  simp only [Char.isDigit, Char.isUpper, Bool.and_eq_true, decide_eq_true_eq,
    UInt32.le_iff_toNat_le] at h hupper
  have h9 : '9'.val.toNat = 57 := rfl
  have hA : 'A'.val.toNat = 65 := rfl
  omega

/-- Digits are no word. -/
theorem ofList_map_toLower_ne {cs : List Char} (hdigits : allDigits cs = true) (hne : cs ≠ [])
    {c : Char} (hc : c.isDigit = false) (rest : List Char) :
    String.ofList (cs.map Char.toLower) ≠ String.ofList (c :: rest) := by
  obtain ⟨d, ds, rfl⟩ := List.exists_cons_of_ne_nil hne
  have hd : d.isDigit = true := List.all_eq_true.1 hdigits d List.mem_cons_self
  intro heq
  rw [String.ofList_inj, List.map_cons, toLower_of_isDigit hd, List.cons.injEq] at heq
  rw [heq.1, hc] at hd
  cases hd

theorem readDecimal?_of_allDigits {cs : List Char} (hdigits : allDigits cs = true) (hne : cs ≠ []) :
    readDecimal? cs = some ⟨ofDigits cs, 0⟩ := by
  have htake : cs.takeWhile Char.isDigit = cs :=
    List.takeWhile_eq_self_iff.2 (List.all_eq_true.1 hdigits)
  have hdrop : cs.dropWhile Char.isDigit = [] :=
    List.dropWhile_eq_nil_iff.2 (List.all_eq_true.1 hdigits)
  simp [readDecimal?, htake, hdrop, hne, readExponent?]

/-- Digits are read as the whole number that they write. -/
theorem read?_of_allDigits {cs : List Char} (hdigits : allDigits cs = true) (hne : cs ≠ []) :
    read? cs = some (Float.ofNat (ofDigits cs)) := by
  have hword {c : Char} (hc : c.isDigit = false) (rest : List Char) :=
    ofList_map_toLower_ne hdigits hne hc rest
  rw [read?_of_stopsAt (stopsAt_of_isDigit (List.all_eq_true.1 hdigits)), readMagnitude?,
    if_neg (not_or.2 ⟨hword rfl _, hword rfl _⟩),
    if_neg (hword rfl _), readDecimal?_of_allDigits hdigits hne]
  rfl

/-- The negative of a whole number is read off its integer. -/
theorem ofInt_neg {n : Nat} (hpos : 0 < n) : Float.ofInt (-n) = -Float.ofNat n := by
  obtain ⟨m, rfl⟩ := Nat.exists_eq_succ_of_ne_zero hpos.ne'
  rfl

instance : SignSymmetric Float where
  neg_ofCanonical? {cs x y} hcs hx hy := by
    have hx : readMagnitude? cs = some x := (read?_of_stopsAt hcs).symm.trans hx
    have hy : (readMagnitude? cs).map Float.neg = some y := hy
    rw [hx] at hy
    cases hy
    rfl
  neg_ofInt32 {n} hpos hlt := by
    change Except.ok (-ofInt32 _) = .ok (ofInt32 _)
    rw [ofInt32, ofInt32, toInt_ofInt32 ⟨by omega, by omega⟩, toInt_ofInt32 ⟨by omega, by omega⟩,
      ofInt_neg hpos]
    rfl
  neg_of_digits {cs x} hdigits hvalue hx := by
    have hne : cs ≠ [] := by
      rintro rfl
      cases hvalue
    have hread : read? cs = some x := hx
    rw [read?_of_allDigits hdigits hne, hvalue, Option.some.injEq] at hread
    subst hread
    change Except.ok (-Float.ofNat _) = .ok (ofInt32 _)
    rw [ofInt32, toInt_ofInt32 (by decide)]
    exact congrArg Except.ok (ofInt_neg (by decide : 0 < 2147483648)).symm

end Binary64

end Formulary
