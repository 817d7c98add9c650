import Formulary.Number.Binary64.Basic
import Formulary.Proofs.Number.Legible
import Formulary.Proofs.Number.Shortest

/-!
# Proofs/Number/Printed — printed floats

The printed form of a float is read back by `readParts?`, which rounds the decimal it finds to units.
Printing therefore loses nothing, the sign of a zero included, and floats are legible.
-/

namespace Formulary.Binary64

open Text

/-! ## Reading a decimal -/

/-- Digits with a point among them, and an exponent. -/
theorem readDecimal_point {whole fraction tail : List Char}
    (hwhole : ∀ c ∈ whole, c.isDigit = true) (hne : whole ≠ [])
    (hfraction : ∀ c ∈ fraction, c.isDigit = true) (htail : StopsAt Char.isDigit tail) :
    readDecimal? (whole ++ '.' :: (fraction ++ tail)) =
      (readExponent? tail).map fun power =>
        ⟨ofDigits (whole ++ fraction), power - fraction.length⟩ := by
  have hpoint : StopsAt Char.isDigit ('.' :: (fraction ++ tail)) := stopsAt_cons rfl _
  have hsome : ¬(whole = [] ∧ fraction = []) := fun h => hne h.1
  simp only [readDecimal?, takeWhile_append_of_stopsAt hwhole hpoint,
    dropWhile_append_of_stopsAt hwhole hpoint, takeWhile_append_of_stopsAt hfraction htail,
    dropWhile_append_of_stopsAt hfraction htail, if_neg hsome]

/-- Digits and an exponent. -/
theorem readDecimal_whole {whole tail : List Char} (hwhole : ∀ c ∈ whole, c.isDigit = true)
    (hne : whole ≠ []) : readDecimal? (whole ++ 'e' :: tail) =
      (readExponent? ('e' :: tail)).map fun power => ⟨ofDigits whole, power⟩ := by
  have hmark : StopsAt Char.isDigit ('e' :: tail) := stopsAt_cons rfl tail
  have hsome : ¬(whole = [] ∧ ([] : List Char) = []) := fun h => hne h.1
  simp [readDecimal?, takeWhile_append_of_stopsAt hwhole hmark,
    dropWhile_append_of_stopsAt hwhole hmark, hne]

theorem readExponent_minus {digits : List Char} (hne : digits ≠ [])
    (hall : allDigits digits = true) :
    readExponent? ('e' :: '-' :: digits) = some (-(ofDigits digits : Int)) :=
  if_pos ⟨.inl rfl, hne, hall⟩

theorem readExponent_digits {c : Char} {cs : List Char} (hdigit : c.isDigit = true)
    (hall : allDigits (c :: cs) = true) :
    readExponent? ('e' :: c :: cs) = some (ofDigits (c :: cs) : Int) := by
  have hminus : c ≠ '-' := by
    rintro rfl
    exact absurd hdigit (by decide)
  have hplus : c ≠ '+' := by
    rintro rfl
    exact absurd hdigit (by decide)
  simp [readExponent?, hminus, hplus, hall]

theorem readExponent_signedDecimal (i : Int) : readExponent? ('e' :: signedDecimal i) = some i := by
  unfold signedDecimal
  split
  · next h =>
    have hi : -(i.natAbs : Int) = i := by omega
    rw [readExponent_minus (decimal_ne_nil _) (allDigits_decimal _), ofDigits_decimal, hi]
  · next h =>
    have hi : (i.natAbs : Int) = i := by omega
    obtain ⟨c, cs, hc, hdigit⟩ := decimal_eq_cons i.natAbs
    have hall : allDigits (c :: cs) = true := by rw [← hc, allDigits_decimal]
    rw [hc, readExponent_digits hdigit hall, ← hc, ofDigits_decimal, hi]

/-! ## The two written forms -/

/-- A text that holds no seam. -/
def Seamless (cs : List Char) : Prop :=
  ∀ c ∈ cs, isSeam c = false

theorem Seamless.append {cs ds : List Char} (hcs : Seamless cs) (hds : Seamless ds) :
    Seamless (cs ++ ds) :=
  List.forall_mem_append.2 ⟨hcs, hds⟩

theorem Seamless.cons {c : Char} {cs : List Char} (hc : isSeam c = false) (hcs : Seamless cs) :
    Seamless (c :: cs) :=
  List.forall_mem_cons.2 ⟨hc, hcs⟩

theorem seamless_of_isDigit {cs : List Char} (h : ∀ c ∈ cs, c.isDigit = true) : Seamless cs :=
  fun c hc => isSeam_of_isDigit c (h c hc)

theorem seamless_signedDecimal (i : Int) : Seamless (signedDecimal i) := by
  unfold signedDecimal
  split
  · exact .cons rfl (seamless_of_isDigit isDigit_of_mem_decimal)
  · exact seamless_of_isDigit isDigit_of_mem_decimal

theorem isDigit_of_mem_zeros {k : Nat} : ∀ c ∈ List.replicate k '0', c.isDigit = true := by
  intro c hc
  rw [List.eq_of_mem_replicate hc]
  rfl

theorem isDigit_of_mem_zero : ∀ c ∈ ['0'], c.isDigit = true :=
  isDigit_of_mem_zeros (k := 1)

/-- A text that reads as an exact number and starts with a digit. -/
structure ReadsAs (text : List Char) (exact : Nat) : Prop where
  exact_eq : (readDecimal? text).map Decimal.exact = some exact
  head_isDigit : ∃ c cs, text = c :: cs ∧ c.isDigit = true
  seamless : Seamless text

/-- What may stand behind the digits of a number: nothing, or an exponent. -/
structure IsExponent (tail : List Char) (power : Int) : Prop where
  stopsAt : StopsAt Char.isDigit tail
  read_eq : readExponent? tail = some power
  seamless : Seamless tail

theorem isExponent_nil : IsExponent [] 0 := ⟨nofun, rfl, nofun⟩

theorem isExponent_signedDecimal (i : Int) : IsExponent ('e' :: signedDecimal i) i where
  stopsAt := stopsAt_cons rfl _
  read_eq := readExponent_signedDecimal i
  seamless := .cons rfl (seamless_signedDecimal i)

theorem append_eq_cons_isDigit {cs : List Char} (hcs : ∀ c ∈ cs, c.isDigit = true) (hne : cs ≠ [])
    (ds : List Char) : ∃ c rest, cs ++ ds = c :: rest ∧ c.isDigit = true := by
  obtain ⟨c, rest, rfl⟩ := List.exists_cons_of_ne_nil hne
  exact ⟨c, rest ++ ds, rfl, hcs c List.mem_cons_self⟩

/-- Digits with a point among them read as the number with that many places. -/
theorem readsAs_point {whole fraction tail : List Char} {power : Int} {exact : Nat}
    (hwhole : ∀ c ∈ whole, c.isDigit = true) (hne : whole ≠ [])
    (hfraction : ∀ c ∈ fraction, c.isDigit = true) (htail : IsExponent tail power)
    (hexact : Decimal.exact ⟨ofDigits (whole ++ fraction), power - fraction.length⟩ = exact) :
    ReadsAs (whole ++ '.' :: (fraction ++ tail)) exact where
  exact_eq := by
    rw [readDecimal_point hwhole hne hfraction htail.stopsAt, htail.read_eq, ← hexact]
    rfl
  head_isDigit := append_eq_cons_isDigit hwhole hne _
  seamless := (seamless_of_isDigit hwhole).append
    (.cons rfl ((seamless_of_isDigit hfraction).append htail.seamless))

theorem Decimal.exact_congr {d : Decimal} {digits : Nat} {exponent : Int}
    (hdigits : digits = d.digits) (hexponent : exponent = d.exponent) :
    Decimal.exact ⟨digits, exponent⟩ = d.exact := by
  rw [hdigits, hexponent]

/-- A number below one has zeros between its point and its digits. -/
theorem readsAs_small {d : Decimal} {zeros : Nat}
    (h : (zeros : Int) = -((decimal d.digits).length + d.exponent)) :
    ReadsAs (['0', '.'] ++ List.replicate zeros '0' ++ decimal d.digits) d.exact := by
  have htext : ['0', '.'] ++ List.replicate zeros '0' ++ decimal d.digits =
      ['0'] ++ '.' :: (List.replicate zeros '0' ++ decimal d.digits ++ []) := by
    simp
  rw [htext]
  refine readsAs_point isDigit_of_mem_zero (by decide)
    (List.forall_mem_append.2 ⟨isDigit_of_mem_zeros, isDigit_of_mem_decimal⟩) isExponent_nil
    (Decimal.exact_congr ?_ ?_)
  · rw [ofDigits_append, ofDigits_append, ofDigits_replicate_zero, ofDigits_decimal]
    simp [ofDigits, pushDigit, digitValue]
  · rw [List.length_append, List.length_replicate]
    omega

/-- A whole number has zeros behind its digits. -/
theorem readsAs_large {d : Decimal} {zeros : Nat} (hzeros : (zeros : Int) = d.exponent) :
    ReadsAs (decimal d.digits ++ List.replicate zeros '0' ++ ['.', '0']) d.exact := by
  have hne : decimal d.digits ++ List.replicate zeros '0' ≠ [] := by simp [decimal_ne_nil]
  have hdigits : ofDigits (decimal d.digits ++ List.replicate zeros '0' ++ ['0']) =
      d.digits * tenPower (zeros + 1) := by
    rw [List.append_assoc, ← List.replicate_succ', ofDigits_append, ofDigits_replicate_zero,
      ofDigits_decimal, List.length_replicate, Nat.add_zero]
  have htext : decimal d.digits ++ List.replicate zeros '0' ++ ['.', '0'] =
      decimal d.digits ++ List.replicate zeros '0' ++ '.' :: (['0'] ++ []) := rfl
  rw [htext]
  refine readsAs_point
    (List.forall_mem_append.2 ⟨isDigit_of_mem_decimal, isDigit_of_mem_zeros⟩) hne
    isDigit_of_mem_zero isExponent_nil ?_
  rw [hdigits, Decimal.exact_shift _ _ (by decide)]
  refine Decimal.exact_congr rfl ?_
  rw [← hzeros, List.length_singleton]
  omega

/-- Digits with the point after the first `point` of them. -/
theorem readsAs_middle {d : Decimal} {point : Nat} {tail : List Char} {power : Int}
    (hpos : 0 < point) (hlt : point < (decimal d.digits).length)
    (htail : IsExponent tail power)
    (h : power + point = (decimal d.digits).length + d.exponent) :
    ReadsAs ((decimal d.digits).take point ++ ['.'] ++ (decimal d.digits).drop point ++ tail)
      d.exact := by
  have htake : ∀ c ∈ (decimal d.digits).take point, c.isDigit = true := fun c hc =>
    isDigit_of_mem_decimal c (List.mem_of_mem_take hc)
  have hdrop : ∀ c ∈ (decimal d.digits).drop point, c.isDigit = true := fun c hc =>
    isDigit_of_mem_decimal c (List.mem_of_mem_drop hc)
  have hne : (decimal d.digits).take point ≠ [] := by
    rw [Ne, List.take_eq_nil_iff, not_or]
    exact ⟨Nat.ne_of_gt hpos, decimal_ne_nil _⟩
  rw [List.append_assoc, List.append_assoc, List.cons_append, List.nil_append]
  refine readsAs_point htake hne hdrop htail (Decimal.exact_congr ?_ ?_)
  · rw [List.take_append_drop, ofDigits_decimal]
  · rw [List.length_drop]
    omega

/-- **A number in positional form is read back.** -/
theorem readsAs_positional (d : Decimal) : ReadsAs (positional d ['.', '0']) d.exact := by
  simp only [positional]
  split
  · exact readsAs_small (by omega)
  split
  · exact readsAs_large (by omega)
  · rw [← List.append_nil (List.take _ _ ++ _ ++ _)]
    exact readsAs_middle (by omega) (by omega) isExponent_nil (by omega)

/-- Digits without a point have an exponent behind them. -/
theorem readsAs_whole (d : Decimal) :
    ReadsAs (decimal d.digits ++ 'e' :: signedDecimal d.exponent) d.exact where
  exact_eq := by
    rw [readDecimal_whole isDigit_of_mem_decimal (decimal_ne_nil _), readExponent_signedDecimal,
      ofDigits_decimal]
    rfl
  head_isDigit := append_eq_cons_isDigit isDigit_of_mem_decimal (decimal_ne_nil _) _
  seamless := (seamless_of_isDigit isDigit_of_mem_decimal).append
    (.cons rfl (seamless_signedDecimal _))

/-- **A number in scientific form is read back.** -/
theorem readsAs_scientific (d : Decimal) : ReadsAs (scientific d) d.exact := by
  have hlength : 0 < (decimal d.digits).length := List.length_pos_iff.2 (decimal_ne_nil _)
  simp only [scientific]
  split
  · next hsingle =>
    have hpower : ((decimal d.digits).length : Int) + d.exponent - 1 = d.exponent := by omega
    rw [hpower, List.append_assoc]
    exact readsAs_whole d
  · next hsingle =>
    rw [List.append_assoc _ ['e']]
    exact readsAs_middle (by decide) (by omega) (isExponent_signedDecimal _) (by omega)

/-- **Both forms of a positive float are read back** as the float. -/
theorem readsAs_debugPositive (units : Nat) :
    ReadsAs (debugPositive units) (shortest units).exact := by
  simp only [debugPositive]
  split
  · exact readsAs_positional _
  · exact readsAs_scientific _

/-! ## Reading a float -/

/-- The text of a finite float without its sign. -/
def debugMagnitude (units : Nat) : List Char :=
  if units = 0 then ['0', '.', '0'] else debugPositive units

/-- Reads the parts of a float without its sign. -/
def readUnsigned? (negative : Bool) : List Char → Option Parts
  | 'i' :: _ => some (.infinite negative)
  | cs => (readDecimal? cs).map fun d => .finite negative (nearestUnits d.exact)

/-- Reads the parts of a float. -/
def readParts? : List Char → Option Parts
  | 'N' :: _ => some .nan
  | '-' :: rest => readUnsigned? true rest
  | cs => readUnsigned? false cs

theorem debugMagnitude_reads {units : Nat} (h : Representable units) :
    ∃ exact, ReadsAs (debugMagnitude units) exact ∧ nearestUnits exact = units := by
  unfold debugMagnitude
  split
  · next hzero =>
    refine ⟨0, ?_, by rw [hzero, nearestUnits_zero]⟩
    exact readsAs_point isDigit_of_mem_zero (by decide) isDigit_of_mem_zero isExponent_nil
      (Decimal.exact_zero _)
  · exact ⟨_, readsAs_debugPositive units, nearestUnits_shortest h⟩

theorem readUnsigned_magnitude {units : Nat} (h : Representable units) (negative : Bool) :
    readUnsigned? negative (debugMagnitude units) = some (.finite negative units) := by
  obtain ⟨exact, hreads, hunits⟩ := debugMagnitude_reads h
  obtain ⟨c, cs, hc, hdigit⟩ := hreads.head_isDigit
  obtain ⟨d, hd, hexact⟩ := Option.map_eq_some_iff.1 hreads.exact_eq
  have hword : c ≠ 'i' := by
    rintro rfl
    exact absurd hdigit (by decide)
  rw [hc] at hd ⊢
  simp [readUnsigned?, hword, hd, hexact, hunits]

theorem readParts_magnitude {units : Nat} (h : Representable units) :
    readParts? (debugMagnitude units) = some (.finite false units) := by
  obtain ⟨exact, hreads, _⟩ := debugMagnitude_reads h
  obtain ⟨c, cs, hc, hdigit⟩ := hreads.head_isDigit
  have hnan : c ≠ 'N' := by
    rintro rfl
    exact absurd hdigit (by decide)
  have hminus : c ≠ '-' := by
    rintro rfl
    exact absurd hdigit (by decide)
  rw [← readUnsigned_magnitude h false, hc]
  simp [readParts?, hnan, hminus]

/-- **A printed float is read back**, with its sign. -/
theorem readParts_debug (x : Float) : readParts? (debug x) = some (Parts.ofFloat x) := by
  unfold debug withSign
  split
  · next h => rw [h]; rfl
  · next negative h =>
    rw [h]
    cases negative <;> rfl
  · next negative units h =>
    rw [h]
    cases negative with
    | false => exact readParts_magnitude (Parts.representable h)
    | true => exact readUnsigned_magnitude (Parts.representable h) true

theorem seamless_debug (x : Float) : Seamless (debug x) := by
  unfold debug withSign
  split
  · exact .cons rfl (.cons rfl (.cons rfl nofun))
  · next negative _ =>
    have hinfinite : Seamless ['i', 'n', 'f'] := .cons rfl (.cons rfl (.cons rfl nofun))
    cases negative with
    | false => exact hinfinite
    | true => exact .cons rfl hinfinite
  · next negative units h =>
    obtain ⟨exact, hreads, _⟩ := debugMagnitude_reads (Parts.representable h)
    cases negative with
    | false => exact hreads.seamless
    | true => exact .cons rfl hreads.seamless

/-- **Floats are printed apart.** -/
theorem debug_injective {x y : Float} (h : debug x = debug y) : x = y := by
  have hparts : some (Parts.ofFloat x) = some (Parts.ofFloat y) := by
    rw [← readParts_debug x, h, readParts_debug]
  exact Parts.ofFloat_injective (Option.some.inj hparts)

/-- **Floats are legible**: no seam stands inside a printed float. -/
instance : Legible Float where
  debug_append_inj {x y r s} hr hs h := by
    have hprinted : debug x ++ r = debug y ++ s := h
    obtain ⟨hxy, hrs⟩ := append_inj_of_stopsAt (p := fun c => !isSeam c)
      (fun c hc => by simp [seamless_debug x c hc]) (fun c hc => by simp [seamless_debug y c hc])
      hr hs hprinted
    exact ⟨debug_injective hxy, hrs⟩

end Formulary.Binary64
