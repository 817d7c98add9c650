import Formulary.Proofs.Locale.Written
import Formulary.Proofs.Number.Displayed
import Formulary.Proofs.Parser.RoundTrip

/-!
# Proofs/Parser/DisplayedNumber — displayed numbers as formulas

The displayed form of a fixed-point number is a formula under a point locale: one number, with a minus
sign before it if the number is negative. The parser takes a whole number for an integer and leaves every
other one to the number type, which reads back what was displayed; in both ways the formula is a leaf
whose value is the number.
-/

namespace Formulary

open Text Formulary.Parser

/-! ## Digits with a point are canonical -/

namespace Locale

variable {whole fraction : List Char}

/-- **Digits with a point among them are their own canonical text** where the point separates decimals. -/
theorem normalize_of_point (hwhole : ∀ c ∈ whole, c.isDigit = true)
    (hfraction : ∀ c ∈ fraction, c.isDigit = true) (hsome : whole ≠ []) :
    english.normalize (whole ++ '.' :: fraction) = some (whole ++ '.' :: fraction) := by
  have hparts : Fixed.Literal.WrittenAs ⟨false, whole, fraction, 0⟩ _ :=
    .parts .absent (.point fraction) .absent (List.all_eq_true.2 hwhole)
      (List.all_eq_true.2 hfraction) fun h => hsome h.1
  rw [List.nil_append, List.append_nil] at hparts
  have htrim : trim (whole ++ '.' :: fraction) = whole ++ '.' :: fraction :=
    trim_of_not_isBlank (List.forall_mem_append.2 ⟨fun c hc => isBlank_of_isDigit (hwhole c hc),
      List.forall_mem_cons.2 ⟨rfl, fun c hc => isBlank_of_isDigit (hfraction c hc)⟩⟩)
  have hwrites := writes_english_of_canonical ⟨_, hparts⟩
  rw [← htrim] at hwrites
  rw [normalize_eq_some_iff.2 hwrites, htrim]

end Locale

namespace Fixed

variable {x : Fixed}

/-! ## The number without its sign -/

/-- The displayed form without its sign. -/
def magnitudeText (x : Fixed) : List Char :=
  displayMagnitude x.rawInt.natAbs

theorem display_eq (x : Fixed) :
    display x = if decide (x.rawInt < 0) = true then '-' :: x.magnitudeText else x.magnitudeText := by
  by_cases hneg : x.rawInt < 0
  · rw [decide_eq_true hneg, display, if_pos hneg, if_pos rfl, magnitudeText]
  · rw [decide_eq_false hneg, display, if_neg hneg, if_neg Bool.false_ne_true, magnitudeText]

theorem eq_zero_of_fractionText {frac : Nat} (h : frac < 4294967296) (hnil : fractionText frac = []) :
    frac = 0 := by
  have hvalue := fractionValue_fractionText h
  rw [hnil, fractionValue, ofDigits_nil, Nat.cast_zero, zero_div, eq_comm, div_eq_zero_iff,
    Nat.cast_eq_zero, tenDigits_eq_zero_iff] at hvalue
  exact hvalue.resolve_right (pow_ne_zero _ (by norm_num))

/-- A number without fractional bits is displayed without a point. -/
theorem magnitudeText_cases (x : Fixed) :
    (x.rawInt.natAbs % 4294967296 = 0 ∧
        x.magnitudeText = decimal (x.rawInt.natAbs / 4294967296)) ∨
      ∃ fraction, (∀ c ∈ fraction, c.isDigit = true) ∧
        x.magnitudeText = decimal (x.rawInt.natAbs / 4294967296) ++ '.' :: fraction := by
  have hlt : x.rawInt.natAbs % 4294967296 < 4294967296 := Nat.mod_lt _ (by decide)
  have hnil := eq_zero_of_fractionText hlt
  have hdigits := digitText_displayMagnitude x.rawInt.natAbs
  have hfraction : ∀ c ∈ fractionText (x.rawInt.natAbs % 4294967296), c.isDigit = true :=
    isDigit_of_mem_fractionText
  rw [magnitudeText]
  generalize fractionText (x.rawInt.natAbs % 4294967296) = fraction at hnil hdigits hfraction
  generalize displayMagnitude x.rawInt.natAbs = text at hdigits ⊢
  cases hdigits with
  | whole => exact .inl ⟨hnil rfl, rfl⟩
  | point => exact .inr ⟨fraction, hfraction, rfl⟩

/-- The displayed form is read as one number. -/
theorem starts_magnitudeText (x : Fixed) :
    Starts .english (dropBlanks x.magnitudeText) (.number x.magnitudeText) [] := by
  have hdigits : ∀ d ∈ decimal (x.rawInt.natAbs / 4294967296), Locale.english.isNumberChar d = true :=
    fun d hd => Expr.isNumberChar_of_isDigit (isDigit_of_mem_decimal d hd)
  have hall : ∀ d ∈ x.magnitudeText, Locale.english.isNumberChar d = true := by
    rcases magnitudeText_cases x with ⟨-, htext⟩ | ⟨fraction, hfraction, htext⟩
    · rw [htext]
      exact hdigits
    · rw [htext]
      exact List.forall_mem_append.2 ⟨hdigits, List.forall_mem_cons.2
        ⟨rfl, fun d hd => Expr.isNumberChar_of_isDigit (hfraction d hd)⟩⟩
  obtain ⟨c, cs, hwhole, hc⟩ := decimal_eq_cons (x.rawInt.natAbs / 4294967296)
  obtain ⟨cs', htext⟩ : ∃ cs', x.magnitudeText = c :: cs' := by
    rcases magnitudeText_cases x with ⟨-, htext⟩ | ⟨fraction, -, htext⟩
    · exact ⟨cs, htext.trans hwhole⟩
    · exact ⟨cs ++ '.' :: fraction, by rw [htext, hwhole, List.cons_append]⟩
  rw [htext] at hall ⊢
  have hstarts := Expr.starts_number hc hall atSeam_nil
  rwa [List.append_nil] at hstarts

/-! ## The leaf of a number -/

/-- A leaf that stands for a number. -/
def IsLeafOf (x : Fixed) (e : Expr Fixed) : Prop :=
  e = .const x ∨ ∃ i, e = .int i ∧ ofInt32 i = x

theorem IsLeafOf.isLeaf {e : Expr Fixed} (h : IsLeafOf x e) : e.isLeaf = true := by
  rcases h with rfl | ⟨i, rfl, -⟩
  · rfl
  · rfl

theorem IsLeafOf.ne_zero {e : Expr Fixed} (h : IsLeafOf x e) (hx : x.rawInt < 0) :
    e ≠ .int 0 := by
  rcases h with rfl | ⟨i, rfl, hi⟩
  · exact nofun
  · rintro ⟨⟩
    have hfits : Fits 0 := by decide
    rw [← hi, ofInt32, Int32.toInt_zero, Int.zero_mul, rawInt_ofRaw hfits] at hx
    exact Int.lt_irrefl 0 hx

theorem IsLeafOf.evaluate_eq {e : Expr Fixed} (h : IsLeafOf x e)
    (functions : FunctionRegistry Fixed) (bindings : Bindings Fixed) :
    e.evaluate functions bindings = pure x := by
  rcases h with rfl | ⟨i, rfl, rfl⟩
  · rw [Expr.evaluate]
  · rw [Expr.evaluate]
    rfl

theorem ofInt32_ofInt {i : Int} (h : x.rawInt = i * unit) : ofInt32 (Int32.ofInt i) = x := by
  have hlow := neg_le_rawInt x
  have hhigh := rawInt_lt x
  rw [h, unit] at hlow hhigh
  have hi : (Int32.ofInt i).toInt = i := Int32.toInt_ofInt_of_le (by omega) (by omega)
  rw [ofInt32, hi, ← h, ofRaw_rawInt]

/-- A number without fractional bits is read as an integer. -/
theorem read_whole (hfrac : x.rawInt.natAbs % 4294967296 = 0) :
    ∃ i, Parser.read .english (decide (x.rawInt < 0)) (decimal (x.rawInt.natAbs / 4294967296)) =
        .ok (.int i : Expr Fixed) ∧ ofInt32 i = x := by
  have hlow := neg_le_rawInt x
  have hhigh := rawInt_lt x
  by_cases hneg : x.rawInt < 0
  · have hwhole : x.rawInt.natAbs / 4294967296 ≤ 2147483648 := by omega
    have hraw : x.rawInt = -((x.rawInt.natAbs / 4294967296 : Nat) : Int) * unit := by
      rw [unit]
      omega
    rw [decide_eq_true hneg]
    exact ⟨_, read_minus_decimal .english hwhole, ofInt32_ofInt hraw⟩
  · have hwhole : x.rawInt.natAbs / 4294967296 < 2147483648 := by omega
    have hraw : x.rawInt = ((x.rawInt.natAbs / 4294967296 : Nat) : Int) * unit := by
      rw [unit]
      omega
    rw [decide_eq_false hneg]
    exact ⟨_, read_decimal .english hwhole, ofInt32_ofInt hraw⟩

theorem ofCanonical?_eq (cs : List Char) : (Numeric.ofCanonical? cs : Option Fixed) = ofDecimal? cs :=
  rfl

/-- Any other number is read back as a constant. -/
theorem read_point {fraction : List Char} (hfraction : ∀ c ∈ fraction, c.isDigit = true)
    (htext : x.magnitudeText = decimal (x.rawInt.natAbs / 4294967296) ++ '.' :: fraction) :
    Parser.read .english (decide (x.rawInt < 0)) x.magnitudeText = .ok (.const x : Expr Fixed) := by
  have hcanonical : Locale.english.normalize x.magnitudeText = some x.magnitudeText := by
    rw [htext]
    exact Locale.normalize_of_point isDigit_of_mem_decimal hfraction (decimal_ne_nil _)
  have hpoint : allDigits x.magnitudeText = false := by
    rw [htext]
    exact List.all_eq_false.2 ⟨'.', List.mem_append_right _ List.mem_cons_self, Bool.false_ne_true⟩
  have hback : Numeric.ofCanonical? (if decide (x.rawInt < 0) = true then '-' :: x.magnitudeText
      else x.magnitudeText) = some x := by
    rw [← display_eq, ofCanonical?_eq, ofDecimal?_display]
  exact read_of_not_allDigits .english hcanonical hpoint hback

/-- **A displayed number is read as a leaf for it.** -/
theorem exists_read_magnitudeText (x : Fixed) :
    ∃ e : Expr Fixed,
      Parser.read .english (decide (x.rawInt < 0)) x.magnitudeText = .ok e ∧ IsLeafOf x e := by
  rcases magnitudeText_cases x with ⟨hfrac, htext⟩ | ⟨fraction, hfraction, htext⟩
  · obtain ⟨i, hread, hi⟩ := read_whole hfrac
    rw [htext]
    exact ⟨.int i, hread, .inr ⟨i, rfl, hi⟩⟩
  · exact ⟨.const x, read_point hfraction htext, .inl rfl⟩

/-! ## The whole formula -/

/-- A number denotes what is read of it with the minus sign before it, unless that is zero. -/
theorem exists_derives_of_read {ctx : Context Fixed} (hfolds : ctx.foldsSign = true)
    {negative : Bool} {text : List Char} {e : Expr Fixed}
    (hnumber : Lexes ctx.locale text [.number text] [])
    (hread : Parser.read ctx.locale negative text = .ok e) (hzero : negative = true → e ≠ .int 0) :
    ∃ ts, Lexes ctx.locale (if negative = true then '-' :: text else text) ts [] ∧
      Derives ctx 1 .comparison ts e := by
  cases negative with
  | true =>
    have hderives : Derives ctx 1 .signed [.minus, .number text] e := .literal hfolds hread (hzero rfl)
    rw [if_pos rfl]
    exact ⟨_, .cons (.operator rfl) hnumber, hderives.looser (Nat.zero_le _)⟩
  | false =>
    have hderives : Derives ctx 1 .atom [.number text] e := .number hread
    rw [if_neg Bool.false_ne_true]
    exact ⟨_, hnumber, hderives.looser (Nat.zero_le _)⟩

/-- The displayed form denotes a leaf for the number. -/
theorem exists_derives_display {ctx : Context Fixed} (hfolds : ctx.foldsSign = true)
    (hlocale : ctx.locale = .english) (x : Fixed) :
    ∃ ts e, Lexes ctx.locale (display x) ts [] ∧ Derives ctx 1 .comparison ts e ∧ IsLeafOf x e := by
  obtain ⟨e, hread, he⟩ := exists_read_magnitudeText x
  have hnumber : Lexes .english x.magnitudeText [.number x.magnitudeText] [] :=
    .singleton (starts_magnitudeText x)
  rw [← hlocale] at hread hnumber
  obtain ⟨ts, hlexes, hderives⟩ := exists_derives_of_read hfolds hnumber hread
    fun hneg => he.ne_zero (of_decide_eq_true hneg)
  rw [← display_eq] at hlexes
  exact ⟨ts, e, hlexes, hderives, he⟩

/-- **A displayed number parses as a leaf for it**, whatever functions and constants there are. -/
theorem exists_parse_display (functions : FunctionRegistry Fixed)
    (constants : ConstantRegistry Fixed) (x : Fixed) :
    ∃ e, parse .english functions constants (String.ofList (display x)) = .ok e ∧ IsLeafOf x e := by
  have hdistinct : Locale.english.Distinct := Locale.distinct_of_mem_presets List.mem_cons_self
  obtain ⟨ts, e, hlexes, hderives, he⟩ := @exists_derives_display
    ⟨.english, functions, constants, true, byteSize (display x)⟩ rfl rfl x
  have hwhole := whole_of_derives hdistinct hderives (signable_of_lexes hdistinct hlexes)
    (validate_of_isLeaf he.isLeaf) hlexes
  have hshallow : ¬(maxDepth < 1 ∨ maxDepth < e.height) := by
    rw [height_of_isLeaf he.isLeaf]
    decide
  rcases hwhole with hok | ⟨-, hdeep⟩
  · refine ⟨e, ?_, he⟩
    rw [parse, String.toList_ofList]
    exact hok
  · exact absurd hdeep hshallow

/-- **The displayed form loses nothing.** It reads back as the number, so it tells any two numbers
apart, and as a formula it is a leaf whose value is the number. -/
theorem display_lossless :
    (∀ x, ofDecimal? (display x) = some x) ∧ Function.Injective display ∧
      ∀ functions constants x, ∃ e,
        parse .english functions constants (String.ofList (display x)) = .ok e ∧
          (e = .const x ∨ ∃ i, e = .int i) ∧
            ∀ bindings, e.evaluate functions bindings = pure x := by
  refine ⟨ofDecimal?_display, fun x y h => ?_, fun functions constants x => ?_⟩
  · have hx := ofDecimal?_display x
    rw [h, ofDecimal?_display y] at hx
    exact (Option.some.inj hx).symm
  · obtain ⟨e, hparse, he⟩ := exists_parse_display functions constants x
    have hleaf : e = .const x ∨ ∃ i, e = .int i := he.imp_right fun ⟨i, hi, _⟩ => ⟨i, hi⟩
    exact ⟨e, hparse, hleaf, he.evaluate_eq functions⟩

end Fixed

end Formulary
