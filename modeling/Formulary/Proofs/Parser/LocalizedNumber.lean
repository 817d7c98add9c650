import Formulary.Proofs.Locale.Written
import Formulary.Proofs.Number.Symmetric
import Formulary.Proofs.Parser.Reader

/-!
# Proofs/Parser/LocalizedNumber — numbers of a locale as formulas

What is a number is said twice: `scan` takes one off formula text character by character, and `normalize`
decides whether what was taken is a number under the locale. Under a preset locale the two agree on all
characters but one. The no-break spaces stand for each other between groups of digits, and only the one
that the locale names is a number character, so that a number with the other one is cut in two. Every
other number is a formula, namely a leaf whose value is the number (`parse_of_normalize`).
-/

namespace Formulary

open Text Formulary.Parser

open Fixed (ExponentText isExponentMark_iff)

/-! ## Integers of a number type -/

/-- A number type that reads digits as the integer that they write, if 32 bits hold that. -/
class ReadsIntegers (T : Type) [Numeric T] : Prop where
  eq_ofInt32 : ∀ {cs : List Char} {i : Int} {x : T}, allDigits cs = true → readInt32? cs = some i →
    Numeric.ofCanonical? cs = some x → x = Numeric.ofInt32 (Int32.ofInt i)

theorem ofDigits_of_readInt32? {cs : List Char} {i : Int} (hdigits : allDigits cs = true)
    (h : readInt32? cs = some i) :
    cs ≠ [] ∧ i = (ofDigits cs : Int) ∧ Fixed.IsInt32 (ofDigits cs : Int) := by
  rw [readInt32?_of_stopsAt (Fixed.stopsAt_isSign_of_allDigits hdigits)] at h
  split at h
  · next hcs =>
    split at h
    · next hrange =>
      cases h
      exact ⟨hcs.1, rfl, hrange⟩
    · cases h
  · cases h

instance : ReadsIntegers Fixed where
  eq_ofInt32 {cs i x} hdigits hi hx := by
    obtain ⟨hne, rfl, hrange⟩ := ofDigits_of_readInt32? hdigits hi
    have hx : Fixed.ofDecimal? cs = some x := hx
    rcases Fixed.ofDecimal?_of_allDigits hdigits hne with hnone | hread
    · rw [hnone] at hx
      cases hx
    · rw [hread, Fixed.narrow?_of_fits (Fixed.fits_mul_unit hrange.1 hrange.2)] at hx
      cases hx
      change _ = Fixed.ofRaw _
      rw [toInt_ofInt32 hrange]

instance : ReadsIntegers Float where
  eq_ofInt32 {cs i x} hdigits hi hx := by
    obtain ⟨hne, rfl, hrange⟩ := ofDigits_of_readInt32? hdigits hi
    have hx : Binary64.read? cs = some x := hx
    rw [Binary64.read?_of_allDigits hdigits hne] at hx
    cases hx
    change _ = Binary64.ofInt32 _
    rw [Binary64.ofInt32, toInt_ofInt32 hrange]
    rfl

/-! ## The characters of a number -/

namespace Locale

variable {locale : Locale}

theorem isNumberChar_iff {c : Char} :
    locale.isNumberChar c = true ↔ c.isDigit = true ∨ c = locale.decimal ∨ c = '.' ∨
      (locale.grouping = some c ∧ c ≠ locale.argument) := by
  simp only [isNumberChar, Bool.or_eq_true, Bool.and_eq_true, decide_eq_true_iff, or_assoc]

theorem isNumberChar_of_decimalMark {body : List Char} {c : Char}
    (h : DecimalMark locale body (some c)) : locale.isNumberChar c = true := by
  cases h with
  | separator _ => exact isNumberChar_iff.2 (.inr (.inl rfl))
  | point _ _ _ => exact isNumberChar_iff.2 (.inr (.inr (.inl rfl)))

/-- **Where the two disagree**: the no-break space that a locale does not name marks groups of digits, and
the parser does not take it for a part of a number. -/
theorem isNumberChar_or_of_isGrouping (hlocale : locale ∈ presets) {c : Char}
    (h : locale.isGrouping c = true) :
    locale.isNumberChar c = true ∨ (locale = french ∧ c = '\u202f') := by
  simp only [presets, List.mem_cons, List.not_mem_nil, or_false] at hlocale
  rcases hlocale with rfl | rfl | rfl
  · cases h
  · have hpoint : c = '.' := of_decide_eq_true h
    exact .inl (isNumberChar_iff.2 (.inr (.inr (.inl hpoint))))
  · have hspace : isNoBreakSpace c = true := h
    rw [isNoBreakSpace, Bool.or_eq_true, decide_eq_true_iff, decide_eq_true_iff] at hspace
    rcases hspace with rfl | rfl
    · exact .inl rfl
    · exact .inr ⟨rfl, rfl⟩

/-- What stands before the exponent of a number. -/
theorem isNumberChar_or_of_bodyText (hlocale : locale ∈ presets) {mark : Option Char}
    {body digits : List Char} (hmark : DecimalMark locale body mark)
    (hbody : BodyText locale mark body digits) :
    ∀ c ∈ body, locale.isNumberChar c = true ∨ (locale = french ∧ c = '\u202f') := by
  intro c hc
  have hchar := List.all_eq_true.1 hbody.eq.1 c hc
  rw [Bool.or_eq_true, Bool.or_eq_true, isMark_iff] at hchar
  rcases hchar with (hdigit | ⟨-, rfl⟩) | hgrouping
  · exact .inl (isNumberChar_iff.2 (.inl hdigit))
  · exact .inl (isNumberChar_of_decimalMark hmark)
  · exact isNumberChar_or_of_isGrouping hlocale hgrouping

/-- An exponent ends the characters before it. -/
theorem stopsAt_of_exponentText (hlocale : locale ∈ presets) {e : Int} {exponent : List Char}
    (h : ExponentText e exponent) : StopsAt locale.isNumberChar exponent := by
  cases h with
  | absent => exact nofun
  | marked hmark _ _ _ =>
    refine stopsAt_cons ?_ _
    simp only [presets, List.mem_cons, List.not_mem_nil, or_false] at hlocale
    rcases isExponentMark_iff.1 hmark with rfl | rfl <;> rcases hlocale with rfl | rfl | rfl <;> rfl

/-- A number that starts with a digit has no sign. -/
theorem Writes.exists_of_startsWithDigit {text canonical : List Char}
    (h : locale.Writes text canonical) (hlead : startsWithDigit text = true) :
    ∃ body digits exponent mark, text = body ++ exponent ∧ (∃ e, ExponentText e exponent) ∧
      DecimalMark locale body mark ∧ BodyText locale mark body digits := by
  obtain ⟨hsign, -, hexponent, hmark, hbody, -⟩ := h
  cases hsign with
  | absent => exact ⟨_, _, _, _, rfl, hexponent.isExponent, hmark, hbody⟩
  | plus => cases hlead
  | minus => cases hlead

end Locale

theorem trim_of_startsWithDigit {text : List Char} (hlead : startsWithDigit text = true)
    (hend : ∀ c, text.getLast? = some c → isBlank c = false) : trim text = text := by
  obtain _ | ⟨c, rest⟩ := text
  · cases hlead
  · have hreverse : dropBlanks (c :: rest).reverse = (c :: rest).reverse := by
      rw [← List.head?_reverse] at hend
      generalize (c :: rest).reverse = cs at hend ⊢
      cases cs with
      | nil => rfl
      | cons d ds => exact dropBlanks_cons (hend d rfl) ds
    rw [trim, dropBlanks_cons (isBlank_of_isDigit hlead), dropBlanksRight, hreverse,
      List.reverse_reverse]

namespace Parser

/-! ## Taking numbers off -/

theorem scanExponent_of_exponentText {e : Int} {exponent : List Char} (h : ExponentText e exponent) :
    scanExponent exponent = (exponent, []) := by
  cases h with
  | absent => rfl
  | @marked mark negative sign digits hmark hsign hne hdigits =>
    obtain ⟨d, ds, rfl⟩ := List.exists_cons_of_ne_nil hne
    have hsplit : Locale.splitSign (sign ++ d :: ds) = (sign, d :: ds) :=
      Locale.splitSign_of_signText hsign fun _ => Fixed.stopsAt_isSign_of_allDigits hdigits
    have hall := List.all_eq_true.1 hdigits
    have hcond : (mark = 'e' ∨ mark = 'E') ∧ startsWithDigit (d :: ds) = true :=
      ⟨isExponentMark_iff.1 hmark, hall d List.mem_cons_self⟩
    simp only [scanExponent, hsplit, if_pos hcond, List.takeWhile_eq_self_iff.2 hall,
      List.dropWhile_eq_nil_iff.2 hall, List.cons_append]

/-- A number of number characters is taken off as a whole, with its exponent. -/
theorem scan_of_isNumberChar {locale : Locale} (hlocale : locale ∈ Locale.presets) {e : Int}
    {body exponent : List Char} (hbody : ∀ c ∈ body, locale.isNumberChar c = true)
    (hexponent : ExponentText e exponent) :
    scan locale (body ++ exponent) = (body ++ exponent, []) := by
  have hstop := Locale.stopsAt_of_exponentText hlocale hexponent
  rw [scan, dropWhile_append_of_stopsAt hbody hstop, takeWhile_append_of_stopsAt hbody hstop,
    scanExponent_of_exponentText hexponent]

theorem scan_narrowSpace {before rest : List Char}
    (hbefore : ∀ c ∈ before, Locale.french.isNumberChar c = true) :
    scan .french (before ++ '\u202f' :: rest) = (before, '\u202f' :: rest) := by
  have hstop : StopsAt Locale.french.isNumberChar ('\u202f' :: rest) := stopsAt_cons rfl rest
  have hnone : scanExponent ('\u202f' :: rest) = ([], '\u202f' :: rest) := by
    simp [scanExponent]
  rw [scan, dropWhile_append_of_stopsAt hbefore hstop, takeWhile_append_of_stopsAt hbefore hstop,
    hnone]
  exact congrArg (·, '\u202f' :: rest) (List.append_nil before)

/-! ## A number in front -/

section

variable {T : Type} [Numeric T] {ctx : Context T}

/-- A formula that starts with a digit is that number, if no operator comes after the number. -/
theorem whole_of_startsWithDigit (hlocale : ctx.locale.Distinct) {input text after : List Char}
    (hlead : startsWithDigit input = true) (hscan : scan ctx.locale input = (text, after))
    (hnone : infix? (dropBlanks after) = none) :
    whole ctx input =
      (read ctx.locale false text >>= fun e : Expr T => completed ctx ⟨e, 1, after⟩) := by
  have hinput : atNumber ctx.locale input = true ∧ dropBlanks input = input ∧ input ≠ [] := by
    cases input with
    | nil => cases hlead
    | cons c rest =>
      have hc : c.isDigit = true := hlead
      exact ⟨by rw [atNumber, hc, Bool.true_or], dropBlanks_cons (isBlank_of_isDigit hc) rest,
        List.cons_ne_nil c rest⟩
  obtain ⟨hnumber, hblank, hne⟩ := hinput
  obtain ⟨budget, hbudget⟩ : ∃ budget, maxDepth = budget + 1 := ⟨_, rfl⟩
  rw [whole_eq (by rwa [hblank]), hbudget, find_succ, hblank, findOperand_number hlocale hnumber, hscan]
  cases (read ctx.locale false text : Except _ (Expr T)) with
  | error error => rfl
  | ok e =>
    have hstop : extend (level ctx budget) 0 ⟨e, 1, after⟩ = .ok ⟨e, 1, dropBlanks after⟩ :=
      extend_stop (below_of_infix?_eq_none hnone)
    change (extend (level ctx budget) 0 ⟨e, 1, after⟩ >>= completed ctx) = completed ctx ⟨e, 1, after⟩
    rw [hstop]
    change completed ctx ⟨e, 1, dropBlanks after⟩ = _
    unfold completed
    rw [dropBlanks_dropBlanks]

omit [Numeric T] in
theorem completed_of_ne_nil {p : Piece (Expr T)} (h : dropBlanks p.rest ≠ []) :
    completed ctx p = .error (.unexpectedToken (ctx.size - byteSize (dropBlanks p.rest))) := by
  obtain ⟨c, rest, hrest⟩ := List.exists_cons_of_ne_nil h
  rw [completed, hrest]
  rfl

/-- A number is read as an integer or as a constant, and either has its value. -/
theorem exists_read_of_normalize [ReadsIntegers T] {locale : Locale} {text canonical : List Char}
    {x : T} (hcanonical : locale.normalize text = some canonical)
    (hx : Numeric.ofCanonical? canonical = some x) :
    ∃ e, read locale false text = .ok e ∧ (e = .const x ∨ ∃ i, e = .int i) ∧
      ∀ registry bindings, e.evaluate registry bindings = pure x := by
  cases hint : if allDigits canonical then readInt32? canonical else none with
  | some i =>
    have hdigits : allDigits canonical = true := by
      by_contra hno
      rw [if_neg hno] at hint
      cases hint
    rw [if_pos hdigits] at hint
    refine ⟨.int (Int32.ofInt i), ?_, .inr ⟨_, rfl⟩, fun registry bindings => ?_⟩
    · simp only [read, hcanonical, Bool.false_eq_true, if_false, hdigits, if_true, hint]
    · rw [Expr.evaluate, ReadsIntegers.eq_ofInt32 hdigits hint hx]
  | none =>
    refine ⟨.const x, ?_, .inl rfl, fun registry bindings => by rw [Expr.evaluate]⟩
    simp only [read, hcanonical, Bool.false_eq_true, if_false, hint, hx]

end

/-! ## Whole formulas -/

section

variable {T : Type} [Numeric T] (functions : FunctionRegistry T) (constants : ConstantRegistry T)
  {locale : Locale} {text canonical : List Char} {x : T}

theorem parse_of_startsWithDigit (hlocale : locale ∈ Locale.presets)
    {input before after : List Char} (hlead : startsWithDigit input = true)
    (hscan : scan locale input = (before, after)) (hnone : infix? (dropBlanks after) = none) :
    parse locale functions constants (String.ofList input) =
      (read locale false before >>= fun e : Expr T =>
        completed ⟨locale, functions, constants, true, byteSize input⟩ ⟨e, 1, after⟩) := by
  rw [parse, String.toList_ofList]
  exact whole_of_startsWithDigit (Locale.distinct_of_mem_presets hlocale) hlead hscan hnone

/-- Number characters with an exponent after them are one number. -/
theorem parse_of_isNumberChar [ReadsIntegers T] (hlocale : locale ∈ Locale.presets) {e : Int}
    {body exponent : List Char} (hbody : ∀ c ∈ body, locale.isNumberChar c = true)
    (hexponent : ExponentText e exponent) (hlead : startsWithDigit (body ++ exponent) = true)
    (hcanonical : locale.normalize (body ++ exponent) = some canonical)
    (hx : Numeric.ofCanonical? canonical = some x) :
    ∃ e, parse locale functions constants (String.ofList (body ++ exponent)) = .ok e ∧
      (e = .const x ∨ ∃ i, e = .int i) ∧ ∀ registry bindings, e.evaluate registry bindings = pure x := by
  obtain ⟨e, hread, hleaf⟩ := exists_read_of_normalize hcanonical hx
  refine ⟨e, ?_, hleaf⟩
  have hscan := scan_of_isNumberChar hlocale hbody hexponent
  rw [parse_of_startsWithDigit functions constants hlocale hlead hscan rfl, hread]
  rfl

/-- What may come after a narrow no-break space in a number is no operator. -/
theorem infix?_after_narrowSpace {e : Int} {after exponent : List Char}
    (hafter : ∀ c ∈ after, Locale.french.isNumberChar c = true ∨ c = '\u202f')
    (hexponent : ExponentText e exponent) : infix? (dropBlanks (after ++ exponent)) = none := by
  induction after with
  | nil =>
    cases hexponent with
    | absent => rfl
    | marked hmark _ _ _ => rcases isExponentMark_iff.1 hmark with rfl | rfl <;> rfl
  | cons c after ih =>
    obtain ⟨hc, hafter⟩ := List.forall_mem_cons.1 hafter
    by_cases hblank : isBlank c = true
    · rw [List.cons_append, dropBlanks, List.dropWhile_cons_of_pos hblank]
      exact ih hafter
    · rw [List.cons_append, dropBlanks_cons (Bool.eq_false_iff.2 hblank)]
      rw [Locale.isNumberChar_iff] at hc
      rcases hc with (hdigit | rfl | rfl | ⟨hspace, -⟩) | rfl
      · exact infix?_of_isDigit hdigit _
      · rfl
      · rfl
      · cases hspace
        rfl
      · rfl

theorem startsWithDigit_append_cons {c : Char} (hc : c.isDigit = false) (before rest : List Char) :
    startsWithDigit (before ++ c :: rest) = startsWithDigit before := by
  cases before with
  | nil => exact hc
  | cons d before => rfl

/-- **A narrow no-break space cuts a number in two**: what stands before it is read, and what comes after
it is unexpected. -/
theorem parse_of_narrowSpace {e : Int} {before after exponent : List Char}
    (hbefore : ∀ c ∈ before, Locale.french.isNumberChar c = true)
    (hafter : ∀ c ∈ after, Locale.french.isNumberChar c = true ∨ c = '\u202f')
    (hexponent : ExponentText e exponent) (hlead : startsWithDigit before = true)
    (hend : dropBlanks (after ++ exponent) ≠ []) :
    parse .french functions constants
        (String.ofList (before ++ '\u202f' :: (after ++ exponent))) =
      (read .french false before >>= fun _ : Expr T => .error (.unexpectedToken
        (byteSize (before ++ '\u202f' :: (after ++ exponent)) -
          byteSize (dropBlanks (after ++ exponent))))) := by
  have hinput : startsWithDigit (before ++ '\u202f' :: (after ++ exponent)) = true := by
    rwa [startsWithDigit_append_cons rfl]
  have hnone : infix? (dropBlanks ('\u202f' :: (after ++ exponent))) = none :=
    infix?_after_narrowSpace hafter hexponent
  rw [parse_of_startsWithDigit functions constants (by decide) hinput (scan_narrowSpace hbefore) hnone]
  refine congrArg _ (funext fun literal => ?_)
  exact completed_of_ne_nil (p := ⟨literal, 1, '\u202f' :: (after ++ exponent)⟩) hend

/-- An exponent is ASCII. -/
theorem narrowSpace_not_mem_exponent {e : Int} {exponent : List Char} (h : ExponentText e exponent) :
    '\u202f' ∉ exponent := by
  cases h with
  | absent => exact nofun
  | @marked mark negative sign digits hmark hsign _ hdigits =>
    intro hmem
    rcases List.mem_cons.1 hmem with rfl | hmem
    · cases hmark
    rcases List.mem_append.1 hmem with hmem | hmem
    · cases hsign with
      | absent => cases hmem
      | plus => exact absurd (List.mem_singleton.1 hmem) (by decide)
      | minus => exact absurd (List.mem_singleton.1 hmem) (by decide)
    · cases List.all_eq_true.1 hdigits _ hmem

/-- A text with a blank and only blanks after it ends with one. -/
theorem dropBlanks_ne_nil_of_getLast? {before rest : List Char} {c : Char} (hc : isBlank c = true)
    (hend : ∀ d, (before ++ c :: rest).getLast? = some d → isBlank d = false) :
    dropBlanks rest ≠ [] := by
  intro hnil
  have hall : ∀ d ∈ c :: rest, isBlank d = true :=
    List.forall_mem_cons.2 ⟨hc, List.all_eq_true.1 (all_isBlank_iff.2 hnil)⟩
  have hlast : (before ++ c :: rest).getLast? = some ((c :: rest).getLast (List.cons_ne_nil c rest)) := by
    rw [List.getLast?_append_cons, List.getLast?_eq_getLast_of_ne_nil]
  have hblank := hall _ (List.getLast_mem (List.cons_ne_nil c rest))
  rw [hend _ hlast] at hblank
  cases hblank

/-- **Which numbers of a locale are formulas.** A number under a preset locale that starts with a digit and
that the number type can represent is a formula, namely a leaf whose value is the number. The exceptions
have a narrow no-break space under the locale whose groups of digits are parted by no-break spaces: they
are numbers, and no formulas. -/
theorem parse_of_normalize [ReadsIntegers T] (hlocale : locale ∈ Locale.presets)
    (hlead : startsWithDigit text = true) (hend : ∀ c, text.getLast? = some c → isBlank c = false)
    (hcanonical : locale.normalize text = some canonical)
    (hx : Numeric.ofCanonical? canonical = some x) :
    (¬(locale = .french ∧ '\u202f' ∈ text) →
      ∃ e, parse locale functions constants (String.ofList text) = .ok e ∧
        (e = .const x ∨ ∃ i, e = .int i) ∧
          ∀ registry bindings, e.evaluate registry bindings = pure x) ∧
      (locale = .french ∧ '\u202f' ∈ text →
        ∃ error, parse locale functions constants (String.ofList text) = .error error) := by
  have hwrites := Locale.normalize_eq_some_iff.1 hcanonical
  rw [trim_of_startsWithDigit hlead hend] at hwrites
  obtain ⟨body, digits, exponent, mark, rfl, ⟨e, hexponent⟩, hmark, hbody⟩ :=
    hwrites.exists_of_startsWithDigit hlead
  have hchars := Locale.isNumberChar_or_of_bodyText hlocale hmark hbody
  constructor
  · intro hplain
    have hall : ∀ c ∈ body, locale.isNumberChar c = true := fun c hc =>
      (hchars c hc).resolve_right fun ⟨hfrench, hspace⟩ =>
        hplain ⟨hfrench, List.mem_append_left _ (hspace ▸ hc)⟩
    exact parse_of_isNumberChar functions constants hlocale hall hexponent hlead hcanonical hx
  · rintro ⟨rfl, hspace⟩
    have hmem := (List.mem_append.1 hspace).resolve_right (narrowSpace_not_mem_exponent hexponent)
    obtain ⟨before, after, rfl, hfirst⟩ := List.eq_append_cons_of_mem hmem
    obtain ⟨hbefore, hafter⟩ := List.forall_mem_append.1 hchars
    have hbefore : ∀ c ∈ before, Locale.french.isNumberChar c = true := fun c hc =>
      (hbefore c hc).resolve_right fun ⟨_, hspace⟩ => hfirst (hspace ▸ hc)
    have hafter : ∀ c ∈ after, Locale.french.isNumberChar c = true ∨ c = '\u202f' := fun c hc =>
      (hafter c (List.mem_cons_of_mem _ hc)).imp_right And.right
    rw [List.append_assoc, List.cons_append] at hend hlead ⊢
    rw [startsWithDigit_append_cons rfl] at hlead
    rw [parse_of_narrowSpace functions constants hbefore hafter hexponent hlead
      (dropBlanks_ne_nil_of_getLast? rfl hend)]
    cases (read .french false before : Except _ (Expr T)) with
    | error error => exact ⟨error, rfl⟩
    | ok literal => exact ⟨_, rfl⟩

/-- Groups of digits parted by no-break spaces make one number, with a narrow one among them two. -/
theorem parse_of_normalize_grouped :
    (∃ e : Expr Fixed, parse .french ∅ ∅ "1\u00a0234,5" = .ok e ∧
      (e = .const (Fixed.ofRaw 5302137126912) ∨ ∃ i, e = .int i) ∧
        ∀ registry bindings,
          e.evaluate registry bindings = pure (Fixed.ofRaw 5302137126912)) ∧
      ∃ error, (parse .french ∅ ∅ "1\u202f234,5" : Except _ (Expr Fixed)) = .error error := by
  have hfrench : Locale.french ∈ Locale.presets := by decide
  have hvalue : (Numeric.ofCanonical? "1234.5".toList : Option Fixed) =
      some (Fixed.ofRaw 5302137126912) := by cbv
  have hend : ∀ c : Char, some '5' = some c → isBlank c = false := fun c hc => by cases hc; rfl
  have hwide : Locale.french.normalize "1\u00a0234,5".toList = some "1234.5".toList := by cbv
  have hnarrow : Locale.french.normalize "1\u202f234,5".toList = some "1234.5".toList := by cbv
  have hplain := parse_of_normalize ∅ ∅ hfrench (by rfl) (by exact hend) hwide hvalue
  have hcut := parse_of_normalize ∅ ∅ hfrench (by rfl) (by exact hend) hnarrow hvalue
  exact ⟨hplain.1 (by decide), hcut.2 (by decide)⟩

/-- A number that the locale reads and no formula: the narrow no-break space is unexpected. -/
theorem parse_narrowSpace :
    let text := "1\u202f234,5"
    Locale.french ∈ Locale.presets ∧ startsWithDigit text.toList = true ∧
      (∀ c, text.toList.getLast? = some c → isBlank c = false) ∧
      Locale.french.normalize text.toList = some "1234.5".toList ∧
      (Numeric.ofCanonical? "1234.5".toList : Option Fixed) = some (Fixed.ofRaw 5302137126912) ∧
      (parse .french ∅ ∅ text : Except _ (Expr Fixed)) = .error (.unexpectedToken 4) := by
  have hend : ∀ c : Char, some '5' = some c → isBlank c = false := fun c hc => by cases hc; rfl
  exact ⟨by decide, rfl, hend, by cbv, by cbv, by cbv⟩

end

end Parser

end Formulary
